import CodexPool.Lib.Paging

/-!
# Pages behind a key

A page shows the first items behind a key. Whoever makes it asks for one item more than it
shows, and gives the key of this item away as the one to read on from. The next page starts
behind that key, so that the item is on no page: of the whole list, a reader is shown the items
but for those at every `limit + 1`-th place.
-/

namespace KeysetPages

open Paging

variable {ι κ : Type*} [LinearOrder κ]

def behind (key : ι → κ) (cursor : Option κ) (items : List ι) : List ι :=
  items.filter fun i => cursor.all fun k => k < key i

def read (key : ι → κ) (limit : ℕ) (items : List ι) (cursor : Option κ) :
    List ι × Option κ :=
  let found := page key (limit + 1) (behind key cursor items)
  if limit < found.length then (found.dropLast, found.getLast?.map key) else (found, none)

/-- What is read from the tables, page by page, by a reader that gives up after some calls. -/
def readAll (key : ι → κ) (limit : ℕ) (tables : ℕ → List ι) :
    ℕ → ℕ → Option κ → Option (List ι)
  | 0, _, _ => none
  | calls + 1, t, cursor =>
    match read key limit (tables t) cursor with
    | (shown, none) => some shown
    | (shown, some k) => (readAll key limit tables calls (t + 1) (some k)).map (shown ++ ·)

/-- The items but for those at every `limit + 1`-th place. -/
def gapped (limit : ℕ) (items : List ι) : List ι :=
  (items.zipIdx.filter fun e => e.2 % (limit + 1) ≠ limit).map Prod.fst

variable {key : ι → κ} {limit : ℕ} {items : List ι} {cursor : Option κ}

/-! ## Gaps -/

theorem gapped_of_length_le (h : items.length ≤ limit) : gapped limit items = items := by
  have hkept : ∀ e ∈ items.zipIdx, decide (e.2 % (limit + 1) ≠ limit) = true := by
    intro e he
    have hlt := List.snd_lt_of_mem_zipIdx he
    apply decide_eq_true
    rw [Nat.mod_eq_of_lt (by omega)]
    omega
  rw [gapped, List.filter_eq_self.2 hkept, List.zipIdx_map_fst]

theorem gapped_append {front : List ι} (x : ι) (hfront : front.length = limit) (rest : List ι) :
    gapped limit (front ++ x :: rest) = front ++ gapped limit rest := by
  have hrest : ((rest.zipIdx (limit + 1)).filter fun e => e.2 % (limit + 1) ≠ limit) =
      (rest.zipIdx.filter fun e => e.2 % (limit + 1) ≠ limit).map
        fun e => (e.1, e.2 + (limit + 1)) := by
    rw [List.zipIdx_eq_map_add, List.filter_map]
    simp [Function.comp_def, Nat.add_comm (limit + 1)]
  have hkept : (front.zipIdx.filter fun e => e.2 % (limit + 1) ≠ limit).map Prod.fst = front :=
    gapped_of_length_le hfront.le
  simp only [gapped, List.zipIdx_append, List.zipIdx_cons, List.filter_append, List.map_append,
    hkept, hfront, Nat.zero_add]
  rw [List.filter_cons_of_neg (by simp), hrest, List.map_map]
  rfl

/-! ## Reading -/

/-- The items in the order of their keys. -/
def sorted (key : ι → κ) (items : List ι) : List ι :=
  items.insertionSort fun i j => key i ≤ key j

theorem pairwise_sorted (hnd : (items.map key).Nodup) :
    (sorted key items).Pairwise fun i j => key i < key j := by
  have hne : (sorted key items).Pairwise (key · ≠ key ·) :=
    List.pairwise_map.1 ((List.perm_insertionSort _ items).map key |>.nodup_iff.2 hnd)
  exact pairwise_insertionSort_key.and hne |>.imp fun h => lt_of_le_of_ne h.1 h.2

theorem sorted_filter (hnd : (items.map key).Nodup) (p : ι → Bool) :
    sorted key (items.filter p) = (sorted key items).filter p := by
  have hsub : ((items.filter p).map key).Nodup := hnd.sublist (List.filter_sublist.map key)
  have hperm : (sorted key (items.filter p)).Perm ((sorted key items).filter p) :=
    (List.perm_insertionSort _ _).trans ((List.perm_insertionSort _ items).symm.filter p)
  exact hperm.eq_of_pairwise (fun a b _ _ hab hba => absurd (hab.trans hba) (lt_irrefl _))
    (pairwise_sorted hsub) ((pairwise_sorted hnd).sublist List.filter_sublist)

theorem read_of_length_le (h : (sorted key (behind key cursor items)).length ≤ limit) :
    read key limit items cursor = (sorted key (behind key cursor items), none) := by
  have hpage : page key (limit + 1) (behind key cursor items) =
      sorted key (behind key cursor items) :=
    List.take_of_length_le (h.trans (Nat.le_succ limit))
  simp only [read, hpage]
  exact if_neg (Nat.not_lt.2 h)

theorem read_of_eq_append {front rest : List ι} {x : ι}
    (h : sorted key (behind key cursor items) = front ++ x :: rest)
    (hfront : front.length = limit) :
    read key limit items cursor = (front, some (key x)) := by
  have hpage : page key (limit + 1) (behind key cursor items) = front ++ [x] := by
    change (sorted key (behind key cursor items)).take (limit + 1) = front ++ [x]
    have hlength : (front ++ [x]).length = limit + 1 := by
      rw [List.length_append, List.length_singleton, hfront]
    rw [h, List.append_cons, ← hlength, List.take_left]
  simp only [read, hpage, List.length_append, List.length_singleton, hfront,
    List.dropLast_concat, List.getLast?_concat, Option.map_some]
  exact if_pos (Nat.lt_succ_self limit)

theorem sorted_behind (hnd : (items.map key).Nodup) {x : ι} {rest : List ι}
    (hsuffix : x :: rest <:+ sorted key items) :
    sorted key (behind key (some (key x)) items) = rest := by
  rcases hsuffix with ⟨before, hsplit⟩
  have hordered := pairwise_sorted hnd
  rw [← hsplit, List.pairwise_append, List.pairwise_cons] at hordered
  have hbefore : before.filter (fun i => decide (key x < key i)) = [] := by
    rw [List.filter_eq_nil_iff]
    intro i hi
    simpa using (hordered.2.2 i hi x List.mem_cons_self).le
  have hrest : rest.filter (fun i => decide (key x < key i)) = rest := by
    rw [List.filter_eq_self]
    exact fun i hi => decide_eq_true (hordered.2.1.1 i hi)
  rw [behind, sorted_filter hnd]
  simp only [Option.all_some]
  rw [← hsplit, List.filter_append, hbefore, List.filter_cons_of_neg (by simp), hrest,
    List.nil_append]

/-- The later tables hold the items of the first one, and more that come before all of these. -/
def GrowsAhead (key : ι → κ) (items : List ι) (tables : ℕ → List ι) : Prop :=
  ∀ t, ∃ more, tables t = items ++ more ∧ ∀ m ∈ more, ∀ i ∈ items, key m < key i

theorem GrowsAhead.behind_eq {tables : ℕ → List ι} (h : GrowsAhead key items tables) (t : ℕ)
    {x : ι} (hx : x ∈ items) :
    behind key (some (key x)) (tables t) = behind key (some (key x)) items := by
  rcases h t with ⟨more, htable, hmore⟩
  have hnone : behind key (some (key x)) more = [] := by
    rw [behind, List.filter_eq_nil_iff]
    intro m hm
    simpa using (hmore m hm x hx).le
  rw [htable, behind, List.filter_append]
  exact (congrArg _ hnone).trans (List.append_nil _)

theorem readAll_of_suffix (hnd : (items.map key).Nodup) {tables : ℕ → List ι}
    (htables : GrowsAhead key items tables) (calls t : ℕ) (cursor : Option κ) {l : List ι}
    (hl : sorted key (behind key cursor (tables t)) = l) (hsuffix : l <:+ sorted key items)
    (hcalls : l.length < calls) :
    readAll key limit tables calls t cursor = some (gapped limit l) := by
  induction calls generalizing t cursor l with
  | zero => exact absurd hcalls (Nat.not_lt_zero _)
  | succ calls ih =>
      by_cases hle : l.length ≤ limit
      · have hshort : (sorted key (behind key cursor (tables t))).length ≤ limit :=
          hl.symm ▸ hle
        rw [readAll, read_of_length_le hshort, hl, gapped_of_length_le hle]
      · have hlt : limit < l.length := Nat.lt_of_not_le hle
        have hsplit : l = l.take limit ++ l[limit] :: l.drop (limit + 1) := by
          rw [← List.drop_eq_getElem_cons hlt, List.take_append_drop]
        have hfront : (l.take limit).length = limit := List.length_take_of_le hlt.le
        have hnext : l[limit] :: l.drop (limit + 1) <:+ sorted key items := by
          rw [← List.drop_eq_getElem_cons hlt]
          exact (List.drop_suffix limit l).trans hsuffix
        have hmem : l[limit] ∈ items :=
          (List.mem_insertionSort _).1 (hnext.subset List.mem_cons_self)
        have hrest : sorted key (behind key (some (key l[limit])) (tables (t + 1))) =
            l.drop (limit + 1) := by
          rw [htables.behind_eq (t + 1) hmem]
          exact sorted_behind hnd hnext
        have hlength : (l.drop (limit + 1)).length < calls := by
          rw [List.length_drop]
          omega
        have hmore := ih (t + 1) (some (key l[limit])) hrest
          ((List.suffix_cons _ _).trans hnext) hlength
        have hgapped : gapped limit l = l.take limit ++ gapped limit (l.drop (limit + 1)) := by
          conv_lhs => rw [hsplit]
          exact gapped_append l[limit] hfront (l.drop (limit + 1))
        rw [readAll, read_of_eq_append (hl.trans hsplit) hfront, hgapped]
        simp only [hmore, Option.map_some]

/-- Whoever reads on until there is no further page has read the items but for those at every
`limit + 1`-th place. -/
theorem readAll_eq (limit : ℕ) (hnd : (items.map key).Nodup) {tables : ℕ → List ι}
    (hstart : tables 0 = items) (htables : GrowsAhead key items tables) {calls : ℕ}
    (hcalls : items.length < calls) :
    readAll key limit tables calls 0 none = some (gapped limit (sorted key items)) := by
  have hall : behind key none (tables 0) = items := by
    rw [hstart, behind, List.filter_eq_self]
    exact fun _ _ => rfl
  apply readAll_of_suffix hnd htables calls 0 none (congrArg _ hall) List.suffix_rfl
  rwa [sorted, List.length_insertionSort]

end KeysetPages
