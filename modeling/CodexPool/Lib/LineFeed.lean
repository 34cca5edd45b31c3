import Mathlib.Data.List.Induction

/-!
# Lines that come in pieces

A consumer of lines is fed with pieces of a text whose cuts have nothing to do with its
lines. It keeps the unfinished line between two pieces. What it has consumed, and the line
that it keeps, depend on the text alone.
-/

namespace LineFeed

variable {α σ : Type*} [DecidableEq α] (sep : α) (consume : σ → List α → σ)

/-- The state after the lines that the text completes, and the line that it leaves
unfinished; `line` is the start of the first one. -/
def feed (s : σ) (line : List α) : List α → σ × List α
  | [] => (s, line)
  | a :: text =>
    if a = sep then feed (consume s line) [] text else feed s (line ++ [a]) text

/-- The unfinished line is put before a piece, and both are read from the start. -/
def feedPiece (state : σ × List α) (piece : List α) : σ × List α :=
  feed sep consume state.1 [] (state.2 ++ piece)

/-- The lines that the text completes, and the line that it leaves unfinished. -/
def split (line : List α) : List α → List (List α) × List α
  | [] => ([], line)
  | a :: text =>
    if a = sep then (line :: (split [] text).1, (split [] text).2) else split (line ++ [a]) text

theorem feed_eq_split (s : σ) (line text : List α) :
    feed sep consume s line text =
      ((split sep line text).1.foldl consume s, (split sep line text).2) := by
  induction text generalizing s line with
  | nil => rfl
  | cons a text ih =>
      rw [feed, split]
      split_ifs
      · exact ih _ _
      · exact ih _ _

theorem feed_append (s : σ) (line text text' : List α) :
    feed sep consume s line (text ++ text') =
      feed sep consume (feed sep consume s line text).1 (feed sep consume s line text).2
        text' := by
  induction text generalizing s line with
  | nil => rfl
  | cons a text ih =>
      rw [List.cons_append, feed, feed]
      split_ifs
      · exact ih _ _
      · exact ih _ _

variable {sep}

theorem feed_of_not_mem (s : σ) (line : List α) {start : List α} (h : sep ∉ start)
    (text : List α) :
    feed sep consume s line (start ++ text) = feed sep consume s (line ++ start) text := by
  induction start generalizing line with
  | nil => simp
  | cons a start ih =>
      rw [List.mem_cons, not_or] at h
      rw [List.cons_append, feed, if_neg (fun ha => h.1 ha.symm), ih _ h.2]
      simp

theorem split_of_not_mem {line : List α} (h : sep ∉ line) (start rest : List α) :
    split sep start (line ++ sep :: rest) =
      ((start ++ line) :: (split sep [] rest).1, (split sep [] rest).2) := by
  induction line generalizing start with
  | nil => rw [List.nil_append, split, if_pos rfl, List.append_nil]
  | cons a line ih =>
      rw [List.mem_cons, not_or] at h
      rw [List.cons_append, split, if_neg fun ha => h.1 ha.symm, ih h.2]
      simp

theorem not_mem_feed (s : σ) {line : List α} (h : sep ∉ line) (text : List α) :
    sep ∉ (feed sep consume s line text).2 := by
  induction text generalizing s line with
  | nil => exact h
  | cons a text ih =>
      rw [feed]
      split_ifs with ha
      · exact ih _ (List.not_mem_nil)
      · refine ih _ ?_
        simpa [h] using fun hsep => ha hsep.symm

theorem feedPiece_feed (s : σ) {line : List α} (h : sep ∉ line) (text piece : List α) :
    feedPiece sep consume (feed sep consume s line text) piece =
      feed sep consume s line (text ++ piece) := by
  rw [feedPiece, feed_of_not_mem consume _ _ (not_mem_feed consume s h text),
    List.nil_append, feed_append]

theorem foldl_feedPiece (s : σ) (pieces : List (List α)) :
    pieces.foldl (feedPiece sep consume) (s, []) = feed sep consume s [] pieces.flatten := by
  induction pieces using List.reverseRecOn with
  | nil => rfl
  | append_singleton pieces piece ih =>
      rw [List.foldl_append, ih, List.foldl_cons, List.foldl_nil,
        feedPiece_feed consume s List.not_mem_nil]
      simp

end LineFeed
