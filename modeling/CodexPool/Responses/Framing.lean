import CodexPool.Lib.Utf8
import CodexPool.Lib.Windows
import CodexPool.Responses.Worker

/-!
# Frames as they arrive

A stream of frames reaches the worker in chunks. After each of them the worker takes frames off
its buffer as long as it finds the end of one. A frame ends with the first two line feeds, or the
first two pairs of carriage return and line feed, that it holds.
-/

namespace CodexPool

namespace SseFraming

/-- The end of a frame, with carriage returns and without. -/
def crlf : Bytes := Bytes.ofAscii "\r\n\r\n"

def lf : Bytes := Bytes.ofAscii "\n\n"

def Terminated (bytes : Bytes) : Prop := crlf <:+ bytes ∨ lf <:+ bytes

/-- A frame ends with the earliest terminator in it. -/
def IsFrame (frame : Bytes) : Prop :=
  Terminated frame ∧ ∀ front, front <+: frame → Terminated front → front = frame

/-- No frame has arrived whole. -/
def Pending (buffer : Bytes) : Prop := ∀ front, front <+: buffer → ¬Terminated front

variable {frame buffer : Bytes}

theorem crlf_ne_nil : crlf ≠ [] := by decide

theorem lf_ne_nil : lf ≠ [] := by decide

theorem pending_nil : Pending [] := by
  intro front hfront hterminated
  rw [List.prefix_nil.1 hfront] at hterminated
  rcases hterminated with h | h
  · exact crlf_ne_nil (List.suffix_nil.1 h)
  · exact lf_ne_nil (List.suffix_nil.1 h)

theorem IsFrame.pending (h : IsFrame frame) {front : Bytes} (hfront : front <+: frame)
    (hne : front ≠ frame) : Pending front := by
  intro front' hfront' hterminated
  have heq := h.2 front' (hfront'.trans hfront) hterminated
  exact hne (hfront.eq_of_length_le (heq ▸ hfront'.length_le))

theorem findSseFrameEnd_eq (buffer : Bytes) : findSseFrameEnd buffer =
    (Bytes.windowEnd crlf buffer).or (Bytes.windowEnd lf buffer) := rfl

theorem of_findSseFrameEnd {frameEnd : Nat} (h : findSseFrameEnd buffer = some frameEnd) :
    0 < frameEnd ∧ frameEnd ≤ buffer.length ∧ Terminated (buffer.take frameEnd) := by
  have hterminated : frameEnd ≤ buffer.length ∧ Terminated (buffer.take frameEnd) := by
    rw [findSseFrameEnd_eq] at h
    rcases Option.or_eq_some_iff.1 h with hcrlf | ⟨-, hlf⟩
    · exact (Bytes.suffix_of_windowEnd hcrlf).imp_right .inl
    · exact (Bytes.suffix_of_windowEnd hlf).imp_right .inr
  refine ⟨Nat.pos_of_ne_zero ?_, hterminated⟩
  rintro rfl
  exact pending_nil _ List.prefix_rfl hterminated.2

theorem findSseFrameEnd_eq_none : findSseFrameEnd buffer = none ↔ Pending buffer := by
  rw [findSseFrameEnd_eq, Option.or_eq_none_iff, Bytes.windowEnd_eq_none crlf_ne_nil,
    Bytes.windowEnd_eq_none lf_ne_nil, ← forall_and]
  apply forall_congr'
  intro front
  rw [← imp_and, Terminated, not_or]

theorem IsFrame.le_of_terminated (h : IsFrame frame) {front rest : Bytes}
    (hfront : front <+: frame ++ rest) (hterminated : Terminated front) :
    frame.length ≤ front.length := by
  rcases Nat.le_total frame.length front.length with hle | hle
  · exact hle
  · have hpref := List.prefix_of_prefix_length_le hfront (List.prefix_append frame rest) hle
    exact Nat.le_of_eq (congrArg List.length (h.2 front hpref hterminated).symm)

/-- The end of the first frame is found if it ends with carriage returns, or if there is no such
end in the buffer. -/
theorem findSseFrameEnd_frame (h : IsFrame frame) (rest : Bytes) :
    findSseFrameEnd (frame ++ rest) = some frame.length ↔
      (crlf <:+ frame ∨ ¬crlf <:+: frame ++ rest) := by
  rw [findSseFrameEnd_eq]
  cases hcrlf : Bytes.windowEnd crlf (frame ++ rest) with
  | some e =>
      rcases Bytes.suffix_of_windowEnd hcrlf with ⟨hle, hsuffix⟩
      have hmin := h.le_of_terminated (List.take_prefix e _) (.inl hsuffix)
      rw [List.length_take, Nat.min_eq_left hle] at hmin
      rw [Option.some_or, Option.some_inj]
      constructor
      · rintro rfl
        rw [List.take_left'] at hsuffix
        · exact .inl hsuffix
        · rfl
      · rintro (hends | hnone)
        · rcases Bytes.windowEnd_of_suffix crlf_ne_nil (List.prefix_append frame rest) hends with
            ⟨e', he', hle'⟩
          rw [hcrlf] at he'
          have := Option.some.inj he'
          omega
        · exact absurd (hsuffix.isInfix.trans (List.take_prefix e _).isInfix) hnone
  | none =>
      have hnone := (Bytes.windowEnd_eq_none crlf_ne_nil).1 hcrlf
      rw [Option.none_or]
      constructor
      · intro _
        right
        rintro ⟨front, back, heq⟩
        exact hnone (front ++ crlf) ⟨back, heq⟩ (List.suffix_append front crlf)
      · intro _
        have hlf : lf <:+ frame :=
          h.1.resolve_left (hnone frame (List.prefix_append frame rest))
        rcases Bytes.windowEnd_of_suffix lf_ne_nil (List.prefix_append frame rest) hlf with
          ⟨e, he, hle⟩
        rcases Bytes.suffix_of_windowEnd he with ⟨hbuffer, hsuffix⟩
        have hmin := h.le_of_terminated (List.take_prefix e _) (.inr hsuffix)
        rw [List.length_take, Nat.min_eq_left hbuffer] at hmin
        rw [he]
        exact congrArg some (by omega)

/-! ## Two kinds of frames in a buffer -/

theorem eq_nil_of_append_eq_crlf {front inner inner' : Bytes} (hlf : lf <:+ front ++ inner)
    (hcrlf : crlf = inner ++ inner') : inner = [] := by
  rcases Nat.lt_or_ge inner.length lf.length with hlt | hle
  · match inner, hcrlf with
    | [], _ => rfl
    | [b], hcrlf =>
      have hb : (0x0D : UInt8) = b := (List.cons.inj hcrlf).1
      rcases hlf with ⟨before, hbefore⟩
      have hlast := congrArg List.getLast? hbefore
      rw [List.getLast?_append, List.getLast?_append, ← hb] at hlast
      change some (0x0A : UInt8) = some 0x0D at hlast
      exact absurd (Option.some.inj hlast) (by decide)
    | _ :: _ :: inner, _ => exact absurd hlt (by simp [lf, Bytes.ofAscii])
  · have hsuffix := List.suffix_of_suffix_length_le hlf (List.suffix_append front inner) hle
    have hinf : lf <:+: crlf := hsuffix.isInfix.trans (hcrlf ▸ List.prefix_append inner _).isInfix
    exact absurd hinf (by decide)

theorem infix_of_infix_append (h : IsFrame frame) (hlf : lf <:+ frame) {rest : Bytes}
    (hinf : crlf <:+: frame ++ rest) (hends : ¬crlf <:+ frame) : crlf <:+: rest := by
  rcases hinf with ⟨front, back, heq⟩
  rw [List.append_assoc] at heq
  rcases List.append_eq_append_iff.1 heq with ⟨inner, hframe, hrest⟩ | ⟨inner, hfront, hrest⟩
  · rcases List.append_eq_append_iff.1 hrest with ⟨inner', hinner, -⟩ | ⟨inner', hcrlf, hafter⟩
    · have hpref : front ++ crlf <+: frame := ⟨inner', by rw [hframe, hinner, List.append_assoc]⟩
      have heq := h.2 _ hpref (.inl (List.suffix_append front crlf))
      exact absurd (heq ▸ List.suffix_append front crlf) hends
    · -- The frame ends within the terminator, which has no two line feeds in a row.
      rw [hframe] at hlf
      rw [eq_nil_of_append_eq_crlf hlf hcrlf] at hcrlf
      exact ⟨[], back, by rw [hafter, hcrlf]; rfl⟩
  · exact ⟨inner, back, by rw [List.append_assoc, hrest]⟩

/-- Among whole frames there is a terminator with carriage returns only at the end of one. -/
theorem crlf_infix_iff {frames : List Bytes} (hframes : ∀ frame ∈ frames, IsFrame frame)
    {tail : Bytes} (htail : Pending tail) :
    crlf <:+: frames.flatten ++ tail ↔ ∃ frame ∈ frames, crlf <:+ frame := by
  induction frames with
  | nil =>
      simp only [List.flatten_nil, List.nil_append, List.not_mem_nil, false_and, exists_false,
        iff_false]
      rintro ⟨front, back, heq⟩
      exact htail (front ++ crlf) ⟨back, heq⟩ (.inl (List.suffix_append front crlf))
  | cons frame frames ih =>
      have ih := ih fun f hf => hframes f (List.mem_cons_of_mem frame hf)
      rw [List.flatten_cons, List.append_assoc, List.exists_mem_cons_iff, ← ih]
      constructor
      · intro hinf
        by_cases hends : crlf <:+ frame
        · exact .inl hends
        · have hframe := hframes frame List.mem_cons_self
          exact .inr (infix_of_infix_append hframe (hframe.1.resolve_left hends) hinf hends)
      · rintro (hends | hinf)
        · exact hends.isInfix.trans (List.prefix_append frame _).isInfix
        · exact hinf.trans (List.suffix_append frame _).isInfix

/-! ## The frames of a buffer -/

/-- The frames that are taken off a buffer, and what is left of it. -/
def drainFrames (buffer : Bytes) : List Bytes × Bytes :=
  match _h : findSseFrameEnd buffer with
  | some frameEnd =>
    let drained := drainFrames (buffer.drop frameEnd)
    (buffer.take frameEnd :: drained.1, drained.2)
  | none => ([], buffer)
termination_by buffer.length
decreasing_by
  have h := of_findSseFrameEnd _h
  rw [List.length_drop]
  omega

theorem drainFrames_of_some {frameEnd : Nat} (h : findSseFrameEnd buffer = some frameEnd) :
    drainFrames buffer = (buffer.take frameEnd :: (drainFrames (buffer.drop frameEnd)).1,
      (drainFrames (buffer.drop frameEnd)).2) := by
  rw [drainFrames]
  split
  · next frameEnd' h' =>
      rw [Option.some.inj (h'.symm.trans h)]
  · next h' => exact nomatch h'.symm.trans h

theorem drainFrames_of_pending (h : Pending buffer) : drainFrames buffer = ([], buffer) := by
  have hnone := findSseFrameEnd_eq_none.2 h
  rw [drainFrames]
  split
  · next frameEnd h' => exact nomatch h'.symm.trans hnone
  · rfl

/-- No frame that ends without carriage returns comes before one that ends with them. -/
def Unmixed (frames : List Bytes) : Prop :=
  frames.Pairwise fun frame later => ¬(lf <:+ frame ∧ crlf <:+ later)

theorem not_crlf_of_lf (h : lf <:+ frame) : ¬crlf <:+ frame := by
  intro hcrlf
  have hsuffix : lf <:+ crlf := List.suffix_of_suffix_length_le h hcrlf (by decide)
  exact absurd hsuffix (by decide)

section Drain

variable {frames : List Bytes} {tail : Bytes}

theorem drainFrames_eq_iff (hframes : ∀ frame ∈ frames, IsFrame frame) (htail : Pending tail) :
    drainFrames (frames.flatten ++ tail) = (frames, tail) ↔ Unmixed frames := by
  induction frames with
  | nil =>
      rw [List.flatten_nil, List.nil_append, drainFrames_of_pending htail]
      exact iff_of_true rfl List.Pairwise.nil
  | cons frame frames ih =>
      have hframe := hframes frame List.mem_cons_self
      have hrest := fun f hf => hframes f (List.mem_cons_of_mem frame hf)
      rw [List.flatten_cons, List.append_assoc, Unmixed, List.pairwise_cons, ← Unmixed,
        ← ih hrest]
      have hfirst : (∀ later ∈ frames, ¬(lf <:+ frame ∧ crlf <:+ later)) ↔
          findSseFrameEnd (frame ++ (frames.flatten ++ tail)) = some frame.length := by
        rw [findSseFrameEnd_frame hframe, ← List.append_assoc, ← List.flatten_cons,
          crlf_infix_iff hframes htail]
        rcases hframe.1 with hends | hends
        · exact iff_of_true (fun _ _ h => not_crlf_of_lf h.1 hends) (.inl hends)
        · simp [hends, not_crlf_of_lf hends]
      rw [hfirst]
      constructor
      · intro hdrained
        have hlength : findSseFrameEnd (frame ++ (frames.flatten ++ tail)) =
            some frame.length := by
          cases hfound : findSseFrameEnd (frame ++ (frames.flatten ++ tail)) with
          | none =>
              exact absurd hframe.1
                (findSseFrameEnd_eq_none.1 hfound _ (List.prefix_append frame _))
          | some e =>
              have hle := (of_findSseFrameEnd hfound).2.1
              rw [drainFrames_of_some hfound] at hdrained
              have htake := congrArg List.length (List.cons.inj (Prod.mk.inj hdrained).1).1
              rw [List.length_take, Nat.min_eq_left hle] at htake
              rw [htake]
        refine ⟨hlength, ?_⟩
        rw [drainFrames_of_some hlength, List.drop_left] at hdrained
        rcases Prod.mk.inj hdrained with ⟨hcons, htail'⟩
        exact Prod.ext (List.cons.inj hcons).2 htail'
      · rintro ⟨hlength, hdrained⟩
        rw [drainFrames_of_some hlength, List.drop_left, List.take_left, hdrained]

theorem drainFrames_of_prefix {frames' : List Bytes} (hframes : ∀ frame ∈ frames, IsFrame frame)
    (htail : Pending tail)
    (h : (drainFrames (frames.flatten ++ tail)).1 <+: frames ++ frames') :
    drainFrames (frames.flatten ++ tail) = (frames, tail) := by
  induction frames with
  | nil => exact drainFrames_of_pending htail
  | cons frame frames ih =>
      have hframe := hframes frame List.mem_cons_self
      rw [List.flatten_cons, List.append_assoc] at h ⊢
      cases hfound : findSseFrameEnd (frame ++ (frames.flatten ++ tail)) with
      | none =>
          exact absurd hframe.1 (findSseFrameEnd_eq_none.1 hfound _ (List.prefix_append frame _))
      | some e =>
          have hle := (of_findSseFrameEnd hfound).2.1
          rw [drainFrames_of_some hfound] at h ⊢
          rcases List.cons_prefix_cons.1 h with ⟨htake, hpref⟩
          have hlength := congrArg List.length htake
          rw [List.length_take, Nat.min_eq_left hle] at hlength
          rw [hlength, List.drop_left] at hpref ⊢
          rw [List.take_left, ih (fun f hf => hframes f (List.mem_cons_of_mem frame hf)) hpref]

end Drain

/-- A buffer of the stream holds whole frames and the start of another one. -/
theorem exists_frames {frames : List Bytes} (hframes : ∀ frame ∈ frames, IsFrame frame)
    (hbuffer : buffer <+: frames.flatten) :
    ∃ whole rest tail, frames = whole ++ rest ∧ buffer = whole.flatten ++ tail ∧ Pending tail := by
  induction frames generalizing buffer with
  | nil =>
      rw [List.flatten_nil, List.prefix_nil] at hbuffer
      exact ⟨[], [], [], rfl, hbuffer, pending_nil⟩
  | cons frame frames ih =>
      rw [List.flatten_cons] at hbuffer
      rcases Nat.lt_or_ge buffer.length frame.length with hlt | hle
      · have hpref :=
          List.prefix_of_prefix_length_le hbuffer (List.prefix_append frame _) hlt.le
        refine ⟨[], frame :: frames, buffer, rfl, rfl, ?_⟩
        apply (hframes frame List.mem_cons_self).pending hpref
        rintro rfl
        exact lt_irrefl _ hlt
      · rcases List.prefix_of_prefix_length_le (List.prefix_append frame _) hbuffer hle with
          ⟨buffer', rfl⟩
        rw [List.prefix_append_right_inj] at hbuffer
        rcases ih (fun f hf => hframes f (List.mem_cons_of_mem frame hf)) hbuffer with
          ⟨whole, rest, tail, rfl, rfl, htail⟩
        exact ⟨frame :: whole, rest, tail, rfl, by rw [List.flatten_cons, List.append_assoc], htail⟩

/-! ## The frames of a stream -/

/-- What the worker does with a chunk, on the frames that it took and its buffer. -/
def readChunk (state : List Bytes × Bytes) (chunk : Bytes) : List Bytes × Bytes :=
  let drained := drainFrames (state.2 ++ chunk)
  (state.1 ++ drained.1, drained.2)

def readChunks (chunks : List Bytes) : List Bytes × Bytes := chunks.foldl readChunk ([], [])

/-- No chunk completes a frame that ends without carriage returns and a later frame that ends
with them. `received` is the part of the stream that is in the buffer before the chunks. -/
def ChunksUnmixed (frames : List Bytes) (received : Bytes) (chunks : List Bytes) : Prop :=
  ∀ before chunk after, chunks = before ++ chunk :: after →
    ∀ done frame between later rest, frames = done ++ frame :: between ++ later :: rest →
      (received ++ before.flatten).length < (done ++ [frame]).flatten.length →
      (done ++ frame :: between ++ [later]).flatten.length ≤
        (received ++ before.flatten ++ chunk).length →
      ¬(lf <:+ frame ∧ crlf <:+ later)

theorem pairwise_iff_split {α : Type*} {R : α → α → Prop} {l : List α} :
    l.Pairwise R ↔ ∀ done a between b rest, l = done ++ a :: between ++ b :: rest → R a b := by
  constructor
  · rintro h done a between b rest rfl
    exact (List.pairwise_append.1 h).2.2 a (List.mem_append_right done List.mem_cons_self) b
      List.mem_cons_self
  · intro h
    induction l with
    | nil => exact List.Pairwise.nil
    | cons a l ih =>
        apply List.pairwise_cons.2
        constructor
        · intro b hb
          rcases List.append_of_mem hb with ⟨between, rest, rfl⟩
          exact h [] a between b rest rfl
        · apply ih
          rintro done b between c rest rfl
          exact h (a :: done) b between c rest rfl

section Chunks

variable {whole rest frames : List Bytes} {tail received : Bytes}

/-- The frames that fit into a buffer are the whole ones in it. -/
theorem length_le_iff (hframes : ∀ frame ∈ whole ++ rest, IsFrame frame) (htail : Pending tail)
    (hpref : tail <+: rest.flatten) {part after : List Bytes}
    (hpart : whole ++ rest = part ++ after) :
    part.flatten.length ≤ (whole.flatten ++ tail).length ↔ part <+: whole := by
  constructor
  · intro hle
    rcases List.append_eq_append_iff.1 hpart with ⟨more, rfl, hrest⟩ | ⟨more, rfl, -⟩
    · cases more with
      | nil => exact ⟨[], by rw [List.append_nil, List.append_nil]⟩
      | cons frame more =>
          rw [hrest] at hpref hframes
          rw [List.flatten_append, List.length_append, List.length_append, List.flatten_cons,
            List.length_append] at hle
          rw [List.cons_append, List.flatten_cons] at hpref
          have hfits := List.prefix_of_prefix_length_le (List.prefix_append frame _) hpref
            (by omega)
          have hframe := hframes frame (by simp)
          exact absurd hframe.1 (htail frame hfits)
    · exact List.prefix_append part more
  · rintro ⟨more, rfl⟩
    rw [List.flatten_append, List.append_assoc, List.length_append]
    exact Nat.le_add_right _ _

theorem Pending.length_lt (hframes : ∀ frame ∈ frames, IsFrame frame) (h : Pending received)
    (hpref : received <+: frames.flatten) {part after : List Bytes}
    (hpart : frames = part ++ after) (hne : part ≠ []) :
    received.length < part.flatten.length := by
  by_contra hle
  have hnone := (@length_le_iff [] frames received hframes h hpref part after hpart).1
    (Nat.le_of_not_lt hle)
  exact hne (List.prefix_nil.1 hnone)

/-- The condition on the chunks, for the first one and for the rest. -/
theorem chunksUnmixed_cons (hframes : ∀ frame ∈ whole ++ rest, IsFrame frame)
    (hreceived : Pending received) (htail : Pending tail) {chunk : Bytes}
    (hbuffer : received ++ chunk = whole.flatten ++ tail) (hpref : tail <+: rest.flatten)
    (chunks : List Bytes) :
    ChunksUnmixed (whole ++ rest) received (chunk :: chunks) ↔
      Unmixed whole ∧ ChunksUnmixed rest tail chunks := by
  have hlt : ∀ {part after : List Bytes}, whole ++ rest = part ++ after → part ≠ [] →
      received.length < part.flatten.length := by
    intro part after hpart hne
    apply hreceived.length_lt hframes _ hpart hne
    rw [List.flatten_append]
    apply (List.prefix_append received chunk).trans
    rw [hbuffer, List.prefix_append_right_inj]
    exact hpref
  constructor
  · intro h
    constructor
    · apply pairwise_iff_split.2
      rintro done frame between later rest' rfl
      apply h [] chunk chunks rfl done frame between later (rest' ++ rest) (by simp)
      · rw [List.flatten_nil, List.append_nil]
        exact @hlt _ (between ++ later :: rest' ++ rest) (by simp) (by simp)
      · rw [List.flatten_nil, List.append_nil, hbuffer,
          @length_le_iff _ _ _ hframes htail hpref _ (rest' ++ rest) (by simp)]
        exact ⟨rest', by simp⟩
    · intro before chunk' after hchunks done frame between later rest' hrest hstart hend
      apply h (chunk :: before) chunk' after (by rw [hchunks]; rfl) (whole ++ done) frame between
        later rest' (by rw [hrest]; simp)
      · rw [List.flatten_cons, ← List.append_assoc, hbuffer]
        simp only [List.flatten_append, List.length_append] at hstart ⊢
        omega
      · rw [List.flatten_cons, ← List.append_assoc received, hbuffer]
        simp only [List.flatten_append, List.length_append] at hend ⊢
        omega
  · rintro ⟨hwhole, hchunks⟩ before chunk' after hsplit done frame between later rest' hframes'
      hstart hend
    cases before with
    | nil =>
        rw [← (List.cons.inj hsplit).1, List.flatten_nil, List.append_nil, hbuffer,
          @length_le_iff _ _ _ hframes htail hpref _ rest' (by rw [hframes']; simp)] at hend
        rcases hend with ⟨more, rfl⟩
        exact pairwise_iff_split.1 hwhole done frame between later more (by simp)
    | cons first before =>
        rcases List.cons.inj hsplit with ⟨rfl, rfl⟩
        rw [List.flatten_cons, ← List.append_assoc, hbuffer] at hstart
        rw [List.flatten_cons, ← List.append_assoc received, hbuffer] at hend
        have hsuffix : ∃ done', done = whole ++ done' ∧
            rest = done' ++ frame :: between ++ later :: rest' := by
          rw [List.append_assoc] at hframes'
          rcases List.append_eq_append_iff.1 hframes' with
            ⟨done', hdone, hrest⟩ | ⟨more, hmore, hrest⟩
          · exact ⟨done', hdone, by rw [hrest, List.append_assoc]⟩
          · cases more with
            | nil =>
                exact ⟨[], by rw [hmore, List.append_nil, List.append_nil],
                  by simpa using hrest.symm⟩
            | cons frame' more =>
                have hfits : done ++ [frame] <+: whole :=
                  ⟨more, by rw [hmore, (List.cons.inj hrest).1]; simp⟩
                rcases hfits with ⟨more', rfl⟩
                rw [List.flatten_append, List.append_assoc, List.append_assoc,
                  List.length_append] at hstart
                omega
        rcases hsuffix with ⟨done', rfl, hrest⟩
        apply hchunks before chunk' after rfl done' frame between later rest' hrest
        · simp only [List.flatten_append, List.length_append] at hstart ⊢
          omega
        · simp only [List.flatten_append, List.length_append] at hend ⊢
          omega

theorem prefix_foldl_readChunk (state : List Bytes × Bytes) (chunks : List Bytes) :
    state.1 <+: (chunks.foldl readChunk state).1 := by
  induction chunks generalizing state with
  | nil => exact List.prefix_rfl
  | cons chunk chunks ih =>
      exact (List.prefix_append state.1 _).trans (ih (readChunk state chunk))

/-- The worker takes exactly the frames of a stream if its chunks do not mix them. -/
theorem foldl_readChunk_iff (hframes : ∀ frame ∈ frames, IsFrame frame)
    (hreceived : Pending received) {chunks : List Bytes}
    (hstream : received ++ chunks.flatten = frames.flatten) (taken : List Bytes) :
    chunks.foldl readChunk (taken, received) = (taken ++ frames, []) ↔
      ChunksUnmixed frames received chunks := by
  induction chunks generalizing frames received taken with
  | nil =>
      rw [List.flatten_nil, List.append_nil] at hstream
      cases frames with
      | nil =>
          apply iff_of_true
          · rw [hstream, List.append_nil]
            rfl
          · intro before chunk after hsplit
            exact absurd hsplit (by simp)
      | cons frame frames =>
          have hframe := hframes frame List.mem_cons_self
          rw [hstream, List.flatten_cons] at hreceived
          exact absurd hframe.1 (hreceived frame (List.prefix_append frame _))
  | cons chunk chunks ih =>
      rw [List.flatten_cons, ← List.append_assoc] at hstream
      rcases exists_frames hframes ⟨chunks.flatten, hstream⟩ with
        ⟨whole, rest, tail, rfl, hbuffer, htail⟩
      have hwhole : ∀ frame ∈ whole, IsFrame frame :=
        fun frame hframe => hframes frame (List.mem_append_left rest hframe)
      have hrest : ∀ frame ∈ rest, IsFrame frame :=
        fun frame hframe => hframes frame (List.mem_append_right whole hframe)
      rw [hbuffer, List.flatten_append, List.append_assoc, List.append_cancel_left_eq] at hstream
      rw [chunksUnmixed_cons hframes hreceived htail hbuffer ⟨_, hstream⟩,
        ← drainFrames_eq_iff hwhole htail, ← ih hrest htail hstream (taken ++ whole),
        List.foldl_cons, readChunk, hbuffer, List.append_assoc]
      dsimp only
      constructor
      · intro h
        have hpref := prefix_foldl_readChunk
          (taken ++ (drainFrames (whole.flatten ++ tail)).1,
            (drainFrames (whole.flatten ++ tail)).2) chunks
        rw [h] at hpref
        have hdrained :=
          drainFrames_of_prefix hwhole htail ((List.prefix_append_right_inj taken).1 hpref)
        rw [hdrained] at h
        exact ⟨hdrained, h⟩
      · rintro ⟨hdrained, h⟩
        rw [hdrained]
        exact h

end Chunks

/-! ## The loop of the worker -/

section Worker

/-- The frame that the worker takes off its buffer when it goes on. -/
def nextFrame : WorkerPhase → List Bytes
  | .draining buffer _ => ((findSseFrameEnd buffer).map (buffer.take ·)).toList
  | _ => []

/-- What the worker has taken, and what is left in its buffer, once it reads again. -/
def untilReading : WorkerPhase → Option (List Bytes × Bytes)
  | .reading buffer _ => some ([], buffer)
  | .draining buffer _ | .checkingStatus buffer _ | .storing buffer _ false _ _ =>
    some (drainFrames buffer)
  | _ => none

variable (codec : SerdeJson) (snapshot : BackgroundRequestSnapshot)

/-- The worker reads chunks and takes frames, while others write to the records. -/
inductive Reads : World → List Bytes → List Bytes → World → Prop
  | refl (w : World) : Reads w [] [] w
  | others {w w' : World} {chunks frames : List Bytes} (rt : BackgroundResponsesRuntime)
      (h : Reads ⟨rt, w.phase⟩ chunks frames w') : Reads w chunks frames w'
  | proceed {w w' : World} {chunks frames : List Bytes} (clock : Clock)
      (h : Reads (snapshot.workerStep codec w .proceed clock) chunks frames w') :
      Reads w chunks (nextFrame w.phase ++ frames) w'
  | chunk {w w' : World} {chunks frames : List Bytes} {buffer : Bytes} {saw : Bool}
      (hphase : w.phase = .reading buffer saw) (bytes : Bytes) (clock : Clock)
      (h : Reads (snapshot.workerStep codec w (.chunk bytes) clock) chunks frames w') :
      Reads w (bytes :: chunks) frames w'

theorem foldl_readChunk_append (taken taken' : List Bytes) (buffer : Bytes) (chunks : List Bytes) :
    chunks.foldl readChunk (taken ++ taken', buffer) =
      (taken ++ (chunks.foldl readChunk (taken', buffer)).1,
        (chunks.foldl readChunk (taken', buffer)).2) := by
  induction chunks generalizing taken' buffer with
  | nil => rfl
  | cons chunk chunks ih =>
      rw [List.foldl_cons, List.foldl_cons, readChunk, readChunk, List.append_assoc]
      exact ih _ _

variable {codec snapshot}

/-- A step of the worker takes the frame that is due. -/
theorem untilReading_proceed {w : World} {state : List Bytes × Bytes}
    (h : untilReading w.phase = some state) (clock : Clock) :
    ∃ taken, untilReading (snapshot.workerStep codec w .proceed clock).phase =
        some (taken, state.2) ∧ state.1 = nextFrame w.phase ++ taken := by
  obtain ⟨rt, phase⟩ := w
  cases phase with
  | reading buffer saw =>
      obtain rfl := Option.some.inj h
      exact ⟨[], rfl, rfl⟩
  | draining buffer saw =>
      obtain rfl := Option.some.inj h
      cases hend : findSseFrameEnd buffer with
      | none =>
          refine ⟨[], ?_, ?_⟩ <;>
            simp [BackgroundRequestSnapshot.workerStep, hend, untilReading, nextFrame,
              drainFrames_of_pending (findSseFrameEnd_eq_none.1 hend)]
      | some frameEnd =>
          refine ⟨(drainFrames (buffer.drop frameEnd)).1, ?_, ?_⟩
          · simp only [BackgroundRequestSnapshot.workerStep, hend,
              BackgroundRequestSnapshot.takeFrame, drainFrames_of_some hend]
            split <;> rfl
          · simp [nextFrame, hend, drainFrames_of_some hend]
  | checkingStatus buffer saw =>
      obtain rfl := Option.some.inj h
      exact ⟨_, rfl, rfl⟩
  | storing buffer saw last terminal response =>
      cases last with
      | false =>
          obtain rfl := Option.some.inj h
          exact ⟨_, rfl, rfl⟩
      | true => cases h
  | _ => cases h

theorem Reads.foldl_readChunk {w w' : World} {chunks frames : List Bytes}
    (h : Reads codec snapshot w chunks frames w') {state : List Bytes × Bytes}
    (hstate : untilReading w.phase = some state) {rest : Bytes} {saw : Bool}
    (hphase : w'.phase = .reading rest saw) : chunks.foldl readChunk state = (frames, rest) := by
  induction h generalizing state with
  | refl w =>
      rw [hphase] at hstate
      exact (Option.some.inj hstate).symm
  | others rt h ih => exact ih hstate hphase
  | @proceed w w' chunks frames clock h ih =>
      obtain ⟨taken, htaken, hstate⟩ := untilReading_proceed hstate clock
      obtain ⟨taken', buffer⟩ := state
      dsimp only at hstate htaken
      rw [hstate, foldl_readChunk_append, ih htaken hphase]
  | @chunk w w' chunks frames buffer saw' hreading bytes clock h ih =>
      rw [hreading] at hstate
      obtain rfl := Option.some.inj hstate
      rw [List.foldl_cons]
      refine ih ?_ hphase
      simp [BackgroundRequestSnapshot.workerStep, hreading, untilReading, readChunk]

theorem Reads.readChunks_eq {w w' : World} {chunks frames : List Bytes} {rest : Bytes}
    {saw saw' : Bool} (h : Reads codec snapshot w chunks frames w')
    (hbegins : w.phase = .reading [] saw) (hreads : w'.phase = .reading rest saw') :
    readChunks chunks = (frames, rest) :=
  h.foldl_readChunk (by rw [hbegins]; rfl) hreads

end Worker

end SseFraming

end CodexPool
