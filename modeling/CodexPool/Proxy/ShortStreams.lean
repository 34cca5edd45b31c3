import CodexPool.Proxy.StreamTask

/-!
# Short streams

A stream goes to the client once a complete line brings more than the announcement of the response,
or once a bound is reached. A line that is not complete when the stream ends does not count.
-/

namespace CodexPool

/-! ## Complete lines -/

def completeLines (bytes : Bytes) : List Bytes := (bytes.splitOn 0x0A).dropLast

theorem isPrefix_modifyHead {α : Type*} (f : α → α) {l l' : List α} (h : l <+: l') :
    l.modifyHead f <+: l'.modifyHead f := by
  rcases h with ⟨more, rfl⟩
  cases l with
  | nil => exact List.nil_prefix
  | cons a l => exact ⟨more, rfl⟩

theorem dropLast_modifyHead {α : Type*} (f : α → α) (l : List α) :
    (l.modifyHead f).dropLast = l.dropLast.modifyHead f := by
  cases l with
  | nil => rfl
  | cons a l =>
      cases l with
      | nil => rfl
      | cons b l => rfl

theorem completeLines_append (bytes more : Bytes) :
    completeLines bytes <+: completeLines (bytes ++ more) := by
  unfold completeLines
  induction bytes with
  | nil => exact List.nil_prefix
  | cons b bytes ih =>
      rw [List.cons_append, List.splitOn_cons_eq_if_modifyHead,
        List.splitOn_cons_eq_if_modifyHead]
      split_ifs
      · rw [List.dropLast_cons_of_ne_nil (List.splitOn_ne_nil _ _),
          List.dropLast_cons_of_ne_nil (List.splitOn_ne_nil _ _)]
        exact (List.prefix_cons_inj []).2 ih
      · rw [dropLast_modifyHead, dropLast_modifyHead]
        exact isPrefix_modifyHead _ ih

/-! ## What is delivered -/

/-- The buffered chunks that are sent, and the client when it has taken them all. -/
def replaySent (client : Client) : List Bytes → List Bytes × Option Client
  | [] => ([], some client)
  | chunk :: chunks =>
    match client.send with
    | none => ([], none)
    | some client =>
      let (sent, client) := replaySent client chunks
      (chunk :: sent, client)

def forwardSent (client : Client) : List UpstreamItem → List Bytes
  | [] => []
  | .error _ :: _ => []
  | .ok chunk :: stream =>
    match client.send with
    | none => []
    | some client => chunk :: forwardSent client stream

section Delivered

variable (codec : SerdeJson) (status : Nat) (headers : UpstreamHeaders)

/-- The bytes that reach the client, once the prelude has ended with a commit. -/
def deliveredBytes (client : Client) (stream : List UpstreamItem) :
    Except StreamPreludeError Bytes :=
  match readStreamPrelude codec status headers [] [] stream with
  | .error e => .error e
  | .ok (preludeChunks, stream) =>
    .ok (match replaySent client preludeChunks with
      | (sent, none) => sent.flatten
      | (sent, some client) => sent.flatten ++ (forwardSent client stream).flatten)

/-- A complete line brings more than the announcement, or a bound is reached. -/
def PreludeDecided (bytes : Bytes) (chunks : List Bytes) : Prop :=
  (∃ line ∈ completeLines bytes, isPreludeLine codec line = false) ∨
    streamPreludeBufferMaxBytes ≤ bytes.length ∨ streamPreludeBufferMaxChunks ≤ chunks.length

/-- Some line, complete or the last one, brings more than the announcement. -/
def HasContent (bytes : Bytes) : Prop :=
  ∃ line ∈ bytes.splitOn 0x0A, isPreludeLine codec line = false

/-- A stream with content and without an error reaches a client that reads to the end, whole and in
its order. -/
def ShortStreamCommits (chunks : List Bytes) : Prop :=
  HasContent codec chunks.flatten → NoErrorEvent codec (chunks.map .ok) →
    deliveredBytes codec status headers none (chunks.map .ok) = .ok chunks.flatten

end Delivered

variable {codec : SerdeJson} {status : Nat} {headers : UpstreamHeaders}

theorem replaySent_open (chunks : List Bytes) : replaySent none chunks = (chunks, some none) := by
  induction chunks with
  | nil => rfl
  | cons chunk chunks ih =>
      rw [replaySent]
      dsimp only [Client.send]
      rw [ih]

theorem forwardSent_open (chunks : List Bytes) :
    forwardSent none (chunks.map .ok) = chunks := by
  induction chunks with
  | nil => rfl
  | cons chunk chunks ih =>
      rw [List.map_cons, forwardSent]
      dsimp only [Client.send]
      rw [ih]

/-! ## The prelude -/

theorem PreludeDecided.append {bytes : Bytes} {chunks : List Bytes}
    (h : PreludeDecided codec bytes chunks) (more : Bytes) (moreChunks : List Bytes) :
    PreludeDecided codec (bytes ++ more) (chunks ++ moreChunks) := by
  rcases h with ⟨line, hline, hcontent⟩ | hbytes | hchunks
  · exact Or.inl ⟨line, (completeLines_append bytes more).subset hline, hcontent⟩
  · rw [PreludeDecided, List.length_append]
    exact Or.inr (Or.inl (Nat.le_add_right_of_le hbytes))
  · rw [PreludeDecided, List.length_append, List.length_append]
    exact Or.inr (Or.inr (Nat.le_add_right_of_le hchunks))

theorem isPreludeEnd_iff {bytes : Bytes} (hne : bytes ≠ []) (chunks : List Bytes) :
    isPreludeEnd codec bytes chunks = true ↔ PreludeDecided codec bytes chunks := by
  have hempty : bytes.isEmpty = false := by simpa using hne
  simp only [isPreludeEnd, shouldContinueStreamPrelude, PreludeDecided, completeLines, hempty,
    Bool.or_eq_true, decide_eq_true_eq, Bool.not_false, Bool.and_true, Bool.not_eq_true',
    List.all_eq_false, Bool.not_eq_true]
  exact or_comm

variable (headers) in
/-- The prelude of a stream without read errors ends with a commit exactly when no buffer is taken
for an error and the stream decides it. -/
theorem readStreamPrelude_ok_iff (hstatus : isSuccess status = true) (chunks : List Bytes)
    {bytes : Bytes} {buffered : List Bytes} (hnot : ¬PreludeDecided codec bytes buffered) :
    (∃ result, readStreamPrelude codec status headers bytes buffered (chunks.map .ok) =
        .ok result) ↔
      (∀ buffer ∈ preludeBuffers codec bytes buffered (chunks.map .ok),
          HarmlessPrelude codec buffer) ∧
        PreludeDecided codec (bytes ++ chunks.flatten)
          (buffered ++ chunks.filter fun chunk => !chunk.isEmpty) := by
  induction chunks generalizing bytes buffered with
  | nil =>
      simp only [List.map_nil, readStreamPrelude, List.flatten_nil, List.filter_nil,
        List.append_nil]
      constructor
      · rintro ⟨result, hresult⟩
        cases hresult
      · exact fun h => absurd h.2 hnot
  | cons chunk chunks ih =>
      rw [List.map_cons, readStreamPrelude, preludeBuffers, List.flatten_cons]
      by_cases hchunk : chunk.isEmpty = true
      · rw [if_pos hchunk, if_pos hchunk, List.filter_cons_of_neg (by simp [hchunk]),
          List.isEmpty_iff.1 hchunk, List.nil_append]
        exact ih hnot
      · have hne : bytes ++ chunk ≠ [] := by
          intro hnil
          rw [(List.append_eq_nil_iff.1 hnil).2] at hchunk
          exact hchunk rfl
        rw [if_neg hchunk, if_neg hchunk, List.filter_cons_of_pos (by simpa using hchunk),
          ← List.append_assoc,
          List.append_cons buffered chunk (chunks.filter fun chunk => !chunk.isEmpty)]
        dsimp only
        rw [List.forall_mem_cons,
          ← parseStreamPreludeErrorContext_eq_none_iff codec headers hstatus (bytes ++ chunk)]
        cases parseStreamPreludeErrorContext codec status headers (bytes ++ chunk) with
        | some context => simp
        | none =>
            dsimp only
            by_cases hend : isPreludeEnd codec (bytes ++ chunk) (buffered ++ [chunk]) = true
            · rw [if_pos hend, if_pos hend]
              have hdecided := ((isPreludeEnd_iff hne _).1 hend).append chunks.flatten
                (chunks.filter fun chunk => !chunk.isEmpty)
              exact ⟨fun _ => ⟨⟨rfl, fun buffer hbuffer => absurd hbuffer List.not_mem_nil⟩,
                hdecided⟩, fun _ => ⟨_, rfl⟩⟩
            · rw [if_neg hend, if_neg hend, ih fun h => hend ((isPreludeEnd_iff hne _).2 h)]
              simp only [true_and]

/-- What is buffered and what is left are the stream. -/
theorem flatten_of_readStreamPrelude (chunks : List Bytes) {bytes : Bytes}
    {buffered preludeChunks : List Bytes} {rest : List UpstreamItem}
    (h : readStreamPrelude codec status headers bytes buffered (chunks.map .ok) =
      .ok (preludeChunks, rest)) :
    ∃ left : List Bytes, rest = left.map .ok ∧
      preludeChunks.flatten ++ left.flatten = buffered.flatten ++ chunks.flatten := by
  induction chunks generalizing bytes buffered with
  | nil => cases h
  | cons chunk chunks ih =>
      rw [List.map_cons, readStreamPrelude] at h
      rw [List.flatten_cons]
      split_ifs at h with hempty
      · rw [List.isEmpty_iff.1 hempty, List.nil_append]
        exact ih h
      · dsimp only at h
        cases hparse : parseStreamPreludeErrorContext codec status headers (bytes ++ chunk) with
        | some context =>
            rw [hparse] at h
            cases h
        | none =>
            rw [hparse] at h
            dsimp only at h
            split_ifs at h with hend
            · cases h
              exact ⟨chunks, rfl, by simp⟩
            · rcases ih h with ⟨left, hleft, hbytes⟩
              exact ⟨left, hleft, by rw [hbytes]; simp⟩

theorem deliveredBytes_eq_iff (chunks : List Bytes) :
    deliveredBytes codec status headers none (chunks.map .ok) = .ok chunks.flatten ↔
      ∃ result, readStreamPrelude codec status headers [] [] (chunks.map .ok) = .ok result := by
  unfold deliveredBytes
  cases hread : readStreamPrelude codec status headers [] [] (chunks.map .ok) with
  | error e =>
      constructor
      · intro h
        cases h
      · rintro ⟨result, hresult⟩
        cases hresult
  | ok result =>
      rcases result with ⟨preludeChunks, rest⟩
      rcases flatten_of_readStreamPrelude chunks hread with ⟨left, rfl, hbytes⟩
      dsimp only
      rw [replaySent_open]
      dsimp only
      rw [forwardSent_open, hbytes]
      exact ⟨fun _ => ⟨_, rfl⟩, fun _ => rfl⟩

variable (codec) in
theorem not_preludeDecided_nil : ¬PreludeDecided codec [] [] := by
  rintro (⟨line, hline, -⟩ | hbytes | hchunks)
  · exact absurd hline List.not_mem_nil
  · exact absurd hbytes (by decide)
  · exact absurd hchunks (by decide)

/-- A stream with content and without an error commits exactly when none of its buffers is taken
for an error, and a complete line has the content or a bound is reached. -/
theorem shortStreamCommits_iff (codec : SerdeJson) (headers : UpstreamHeaders)
    (hstatus : isSuccess status = true) (chunks : List Bytes) :
    ShortStreamCommits codec status headers chunks ↔
      (HasContent codec chunks.flatten → NoErrorEvent codec (chunks.map .ok) →
        (∀ buffer ∈ preludeBuffers codec [] [] (chunks.map .ok), HarmlessPrelude codec buffer) ∧
          PreludeDecided codec chunks.flatten (chunks.filter fun chunk => !chunk.isEmpty)) := by
  have hok := readStreamPrelude_ok_iff headers hstatus chunks (not_preludeDecided_nil codec)
  rw [List.nil_append, List.nil_append] at hok
  rw [ShortStreamCommits, deliveredBytes_eq_iff, hok]

/-! One delta, with a newline at its end and without. -/

def deltaPayload : String := "\x7b\"type\":\"response.output_text.delta\"\x7d"

def deltaCodec : SerdeJson :=
  .ofTable [(deltaPayload, .obj [("type", .str "response.output_text.delta")])]

def deltaLine : Bytes := Bytes.ofAscii ("data: " ++ deltaPayload)

theorem deltaLine_newline_commits :
    ShortStreamCommits deltaCodec 200 ⟨none, none⟩ [deltaLine ++ [0x0A]] :=
  (shortStreamCommits_iff deltaCodec ⟨none, none⟩ rfl [deltaLine ++ [0x0A]]).2 fun _ _ =>
    ⟨by decide +kernel, Or.inl ⟨deltaLine, by decide, by decide⟩⟩

theorem deltaLine_noErrorEvent : NoErrorEvent deltaCodec [.ok deltaLine] := by
  intro buffer _ text _ payload _ value hvalue
  have heq : value = .obj [("type", .str "response.output_text.delta")] := by
    simp only [deltaCodec, SerdeJson.ofTable, List.find?_cons, List.find?_nil] at hvalue
    split at hvalue <;> simp_all
  rw [heq]
  decide

theorem deltaLine_not_decided :
    ¬PreludeDecided deltaCodec [deltaLine].flatten
      ([deltaLine].filter fun chunk => !chunk.isEmpty) := by
  unfold PreludeDecided
  decide

/-- The last line has no newline, and the stream is given up at its end. -/
theorem deltaLine_not_commits :
    ¬ShortStreamCommits deltaCodec 200 ⟨none, none⟩ [deltaLine] := by
  intro h
  have hcontent : HasContent deltaCodec [deltaLine].flatten :=
    ⟨deltaLine, by decide, by decide⟩
  have hread := (deliveredBytes_eq_iff [deltaLine]).1 (h hcontent deltaLine_noErrorEvent)
  have hdecided := ((readStreamPrelude_ok_iff ⟨none, none⟩ rfl [deltaLine]
    (not_preludeDecided_nil deltaCodec)).1 hread).2
  exact deltaLine_not_decided hdecided

end CodexPool
