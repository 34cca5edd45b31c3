import CodexPool.Responses.Framing

/-!
# The text of a frame

A frame is built from an event name and a value, and read back. The name comes back if it is on
one line, is not empty and has no white space around it.
-/

namespace CodexPool

namespace SseFraming

open Bytes

/-- A text on one line that is not empty and has no white space around it. -/
def OneLine (text : Bytes) : Prop := text ≠ [] ∧ (0x0A : UInt8) ∉ text ∧ trimAscii text = text

instance (text : Bytes) : Decidable (OneLine text) :=
  inferInstanceAs (Decidable (_ ∧ _ ∧ _))

theorem trimAscii_eq_rdropWhile (text : Bytes) :
    trimAscii text = (text.dropWhile isAsciiWhitespace).rdropWhile isAsciiWhitespace := rfl

theorem trimAscii_space (text : Bytes) : trimAscii (0x20 :: text) = trimAscii text := by
  rw [trimAscii_eq_rdropWhile, List.dropWhile_cons_of_pos (by decide)]
  rfl

theorem dropWhile_eq_self_of_trimAscii {text : Bytes} (h : trimAscii text = text) :
    text.dropWhile isAsciiWhitespace = text := by
  apply (List.dropWhile_suffix isAsciiWhitespace).eq_of_length_le
  calc text.length = (trimAscii text).length := congrArg List.length h.symm
    _ ≤ _ := (List.rdropWhile_prefix isAsciiWhitespace _).length_le

theorem trimAscii_append {b : UInt8} {label text : Bytes} (hb : isAsciiWhitespace b = false)
    (hne : text ≠ []) (h : trimAscii text = text) :
    trimAscii (b :: label ++ text) = b :: label ++ text := by
  have hlast : ¬isAsciiWhitespace (text.getLast hne) = true := by
    rw [trimAscii_eq_rdropWhile, dropWhile_eq_self_of_trimAscii h] at h
    exact List.rdropWhile_eq_self_iff.1 h hne
  have hb' : ¬isAsciiWhitespace b = true := by
    rw [hb]
    exact Bool.false_ne_true
  rw [trimAscii_eq_rdropWhile, List.cons_append, List.dropWhile_cons_of_neg hb']
  apply List.rdropWhile_eq_self_iff.2
  intro hne'
  have heq : (b :: (label ++ text)).getLast hne' = text.getLast hne :=
    List.getLast_append_of_right_ne_nil (b :: label) text hne
  rwa [heq]

/-! ## Reading a frame line by line -/

/-- The lines of a frame after some of them were read. -/
def readLines (lines : SseLines) (bytes : Bytes) : SseLines :=
  (bytes.splitOn 0x0A).foldl SseLines.read lines

theorem parseSseFrame_eq (frame : Bytes) : parseSseFrame frame =
    if (readLines ⟨none, []⟩ frame).payloadLines.isEmpty then none
    else some ((readLines ⟨none, []⟩ frame).eventName,
      [(0x0A : UInt8)].intercalate (readLines ⟨none, []⟩ frame).payloadLines) := rfl

theorem readLines_append (lines : SseLines) (bytes bytes' : Bytes) :
    readLines lines (bytes ++ 0x0A :: bytes') = readLines (readLines lines bytes) bytes' := by
  rw [readLines, List.splitOn_append_cons_self, List.foldl_append]
  rfl

theorem readLines_line (lines : SseLines) {line : Bytes} (h : (0x0A : UInt8) ∉ line) :
    readLines lines line = lines.read line := by
  rw [readLines, List.splitOn_eq_singleton h]
  rfl

theorem read_data (lines : SseLines) {text : Bytes} (h : OneLine text) :
    lines.read (ofAscii "data: " ++ text) =
      { lines with payloadLines := lines.payloadLines ++ [text] } := by
  rcases h with ⟨hne, -, htrim⟩
  have hline : trimAscii (ofAscii "data: " ++ text) = ofAscii "data: " ++ text :=
    trimAscii_append (by decide) hne htrim
  have hevent : stripPrefix (ofAscii "event:") (ofAscii "data: " ++ text) = none := rfl
  have hdata : stripPrefix (ofAscii "data:") (ofAscii "data: " ++ text) = some (0x20 :: text) := rfl
  have hpayload : trimAscii (0x20 :: text) = text := by
    rw [trimAscii_space, htrim]
  have hempty : text.isEmpty = false := by
    simpa using hne
  simp only [SseLines.read, hline, hevent, hdata, hpayload, hempty]
  rfl

theorem rdropWhile_append_right {xs ys : Bytes} {b : UInt8} (hb : isAsciiWhitespace b = false) :
    (xs ++ [b] ++ ys).rdropWhile isAsciiWhitespace =
      xs ++ [b] ++ ys.rdropWhile isAsciiWhitespace := by
  induction ys using List.reverseRecOn with
  | nil =>
      rw [List.rdropWhile_nil, List.append_nil]
      apply List.rdropWhile_concat_neg
      rw [hb]
      exact Bool.false_ne_true
  | append_singleton ys y ih =>
      rw [← List.append_assoc, List.rdropWhile_concat, List.rdropWhile_concat, ih]
      split_ifs
      · rfl
      · rw [← List.append_assoc]

theorem trimAscii_rdropWhile (text : Bytes) :
    trimAscii (text.rdropWhile isAsciiWhitespace) = trimAscii text := by
  induction text using List.reverseRecOn with
  | nil => rfl
  | append_singleton text b ih =>
      rw [List.rdropWhile_concat]
      split_ifs with hb
      · rw [ih, trimAscii_eq_rdropWhile, trimAscii_eq_rdropWhile, List.dropWhile_append]
        cases hempty : (text.dropWhile isAsciiWhitespace).isEmpty with
        | true =>
            rw [List.isEmpty_iff.1 hempty, if_pos rfl, List.dropWhile_cons_of_pos hb]
            rfl
        | false => rw [if_neg Bool.false_ne_true, List.rdropWhile_concat_pos _ _ _ hb]
      · rfl

theorem read_event (lines : SseLines) (name : Bytes) :
    lines.read (ofAscii "event: " ++ name) =
      if (trimAscii name).isEmpty then lines
      else { lines with eventName := some (fromUtf8Lossy (trimAscii name)) } := by
  have hline : trimAscii (ofAscii "event: " ++ name) =
      ofAscii "event:" ++ (0x20 :: name).rdropWhile isAsciiWhitespace :=
    @rdropWhile_append_right (ofAscii "event") (0x20 :: name) 0x3A rfl
  have hevent : stripPrefix (ofAscii "event:")
      (ofAscii "event:" ++ (0x20 :: name).rdropWhile isAsciiWhitespace) =
        some ((0x20 :: name).rdropWhile isAsciiWhitespace) := rfl
  have hname : trimAscii ((0x20 :: name).rdropWhile isAsciiWhitespace) = trimAscii name := by
    rw [trimAscii_rdropWhile, trimAscii_space]
  simp only [SseLines.read, hline, hevent, hname]
  rfl

/-! ## Event names have no line feed -/

theorem trimAscii_subset (text : Bytes) : trimAscii text ⊆ text := by
  intro b hb
  rw [trimAscii_eq_rdropWhile] at hb
  exact List.dropWhile_subset _ ((List.rdropWhile_prefix _ _).subset hb)

theorem not_mem_of_mem_splitOn {bytes line : Bytes} {sep : UInt8}
    (h : line ∈ bytes.splitOn sep) : sep ∉ line := by
  induction bytes generalizing line with
  | nil =>
      rw [List.splitOn_nil, List.mem_singleton] at h
      rw [h]
      exact List.not_mem_nil
  | cons b bytes ih =>
      rw [List.splitOn_cons_eq_if_modifyHead] at h
      split_ifs at h with hb
      · rcases List.mem_cons.1 h with rfl | h
        · exact List.not_mem_nil
        · exact ih h
      · cases hlines : bytes.splitOn sep with
        | nil => exact absurd hlines (List.splitOn_ne_nil sep bytes)
        | cons first lines =>
            rw [hlines, List.modifyHead_cons] at h
            rcases List.mem_cons.1 h with rfl | h
            · have hfirst := ih (hlines ▸ List.mem_cons_self)
              simp only [beq_iff_eq] at hb
              simp [hfirst, Ne.symm hb]
            · exact ih (hlines ▸ List.mem_cons_of_mem first h)

def NoLineFeed (lines : SseLines) : Prop :=
  ∀ name, lines.eventName = some name → '\n' ∉ name.toList

theorem not_mem_fromUtf8Lossy {bytes : Bytes} (h : (0x0A : UInt8) ∉ bytes) :
    '\n' ∉ (fromUtf8Lossy bytes).toList := by
  rw [fromUtf8Lossy, String.toList_ofList]
  exact fun hmem => h (mem_decodeLossy_ascii (by decide) (by decide) hmem)

theorem NoLineFeed.read {lines : SseLines} (h : NoLineFeed lines) {line : Bytes}
    (hline : (0x0A : UInt8) ∉ line) : NoLineFeed (lines.read line) := by
  unfold SseLines.read
  dsimp only
  split_ifs
  · exact h
  · cases hevent : stripPrefix (ofAscii "event:") (trimAscii line) with
    | some rawEventName =>
        dsimp only
        split_ifs
        · exact h
        · intro name hname
          rw [← Option.some.inj hname]
          apply not_mem_fromUtf8Lossy
          intro hmem
          have hraw : rawEventName ⊆ trimAscii line := by
            unfold stripPrefix at hevent
            split_ifs at hevent
            rw [← Option.some.inj hevent]
            exact List.drop_subset _ _
          exact hline (trimAscii_subset line (hraw (trimAscii_subset rawEventName hmem)))
    | none =>
        dsimp only
        cases stripPrefix (ofAscii "data:") (trimAscii line) with
        | some rawPayload =>
            dsimp only
            split_ifs
            · exact h
            · exact h
        | none => exact h

theorem noLineFeed_readLines (bytes : Bytes) : NoLineFeed (readLines ⟨none, []⟩ bytes) := by
  have hlines : ∀ lines : List Bytes, (∀ line ∈ lines, (0x0A : UInt8) ∉ line) →
      ∀ state, NoLineFeed state → NoLineFeed (lines.foldl SseLines.read state) := by
    intro lines
    induction lines with
    | nil => exact fun _ _ h => h
    | cons line lines ih =>
        intro hnone state h
        apply ih fun l hl => hnone l (List.mem_cons_of_mem line hl)
        exact h.read (hnone line List.mem_cons_self)
  exact hlines _ (fun line => not_mem_of_mem_splitOn) _ nofun

/-! ## Reading back what was built -/

/-- A name that comes back: it is on one line, not empty and trimmed. -/
def NameKept (eventName : Option String) : Prop :=
  ∀ name, eventName = some name → OneLine (ofString name)

def ReadBack (codec : SerdeJson) (eventName : Option String) (eventValue : Json) : Prop :=
  ∃ payload, parseSseFrame (ofString (buildSseFrame codec eventName eventValue)) =
    some (eventName, payload) ∧ codec.fromSlice payload = some eventValue

section ReadBack

variable {codec : SerdeJson} {eventValue : Json}

theorem readLines_data (h : OneLine (ofString (codec.toText eventValue))) (lines : SseLines) :
    readLines lines (ofAscii "data: " ++ ofString (codec.toText eventValue) ++ [0x0A, 0x0A]) =
    { lines with
      payloadLines := lines.payloadLines ++ [ofString (codec.toText eventValue)] } := by
  have hline : (0x0A : UInt8) ∉ ofAscii "data: " ++ ofString (codec.toText eventValue) := by
    rw [List.mem_append, not_or]
    exact ⟨by decide, h.2.1⟩
  rw [readLines_append, readLines_line lines hline, read_data lines h]
  rfl

theorem readLines_name (h : OneLine (ofString (codec.toText eventValue))) (label : Bytes)
    (lines : SseLines) :
    readLines lines (label ++ [0x0A] ++
      (ofAscii "data: " ++ ofString (codec.toText eventValue) ++ [0x0A, 0x0A])) =
    { eventName := (readLines lines label).eventName
      payloadLines := (readLines lines label).payloadLines ++
        [ofString (codec.toText eventValue)] } := by
  rw [List.append_assoc, List.singleton_append, readLines_append, readLines_data h]

theorem ofString_buildSseFrame (codec : SerdeJson) (eventName : Option String)
    (eventValue : Json) : ofString (buildSseFrame codec eventName eventValue) =
    (match eventName with
      | some name => ofAscii "event: " ++ ofString name ++ [0x0A]
      | none => []) ++
    (ofAscii "data: " ++ ofString (codec.toText eventValue) ++ [0x0A, 0x0A]) := by
  have hdata : ofString "data: " = ofAscii "data: " := by
    rw [ofString_eq_ofChars]
    rfl
  have hend : ofString "\n\n" = [0x0A, 0x0A] := by
    rw [ofString_eq_ofChars]
    rfl
  unfold buildSseFrame
  rw [ofString_append, ofString_append, ofString_append, hdata, hend, List.append_assoc,
    List.append_assoc, List.append_assoc]
  cases eventName with
  | none =>
      congr 1
      rw [ofString_eq_ofChars]
      rfl
  | some name =>
      have hevent : ofString "event: " = ofAscii "event: " := by
        rw [ofString_eq_ofChars]
        rfl
      have hfeed : ofString "\n" = [0x0A] := by
        rw [ofString_eq_ofChars]
        rfl
      dsimp only
      rw [ofString_append, ofString_append, hevent, hfeed]

theorem readLines_of_oneLine {name : String} (h : OneLine (ofString name)) :
    readLines ⟨none, []⟩ (ofAscii "event: " ++ ofString name) = ⟨some name, []⟩ := by
  have hline : (0x0A : UInt8) ∉ ofAscii "event: " ++ ofString name := by
    rw [List.mem_append, not_or]
    exact ⟨by decide, h.2.1⟩
  have hempty : (ofString name).isEmpty = false := by
    simpa using h.1
  rw [readLines_line _ hline, read_event, h.2.2, hempty, fromUtf8Lossy_ofString]
  rfl

theorem oneLine_of_eventName {name : String}
    (h : (readLines ⟨none, []⟩ (ofAscii "event: " ++ ofString name)).eventName = some name) :
    OneLine (ofString name) := by
  have hfeed : (0x0A : UInt8) ∉ ofString name := by
    rw [ofString_eq_ofChars]
    exact fun hmem => noLineFeed_readLines _ name h
      ((mem_ofChars_ascii (c := '\n') (by decide)).1 hmem)
  have hline : (0x0A : UInt8) ∉ ofAscii "event: " ++ ofString name := by
    rw [List.mem_append, not_or]
    exact ⟨by decide, hfeed⟩
  rw [readLines_line _ hline, read_event] at h
  split_ifs at h with hempty
  have htrim := trimAscii_of_fromUtf8Lossy (Option.some.inj h)
  rw [htrim] at hempty
  exact ⟨fun hnil => hempty (List.isEmpty_iff.2 hnil), hfeed, htrim⟩

theorem parse_of_readLines {frame : Bytes} {eventName : Option String} {text : Bytes}
    (h : readLines ⟨none, []⟩ frame = ⟨eventName, [text]⟩) :
    parseSseFrame frame = some (eventName, text) := by
  rw [parseSseFrame_eq, h]
  simp [List.intercalate]

/-- What is built is read back if the name is kept and the codec reads its own text back. -/
theorem readBack_iff (h : OneLine (ofString (codec.toText eventValue)))
    (eventName : Option String) : ReadBack codec eventName eventValue ↔
      NameKept eventName ∧
        codec.fromSlice (ofString (codec.toText eventValue)) = some eventValue := by
  have hkept : NameKept eventName →
      parseSseFrame (ofString (buildSseFrame codec eventName eventValue)) =
        some (eventName, ofString (codec.toText eventValue)) := by
    intro hname
    apply parse_of_readLines
    rw [ofString_buildSseFrame]
    cases eventName with
    | none => exact readLines_data h _
    | some name =>
        dsimp only
        rw [readLines_name h, readLines_of_oneLine (hname name rfl)]
        rfl
  constructor
  · rintro ⟨payload, hparse, hread⟩
    have hname : NameKept eventName := by
      rintro name rfl
      apply oneLine_of_eventName
      rw [parseSseFrame_eq, ofString_buildSseFrame] at hparse
      dsimp only at hparse
      rw [readLines_name h] at hparse
      split_ifs at hparse
      exact (Prod.mk.inj (Option.some.inj hparse)).1
    rw [hkept hname] at hparse
    rw [(Prod.mk.inj (Option.some.inj hparse)).2]
    exact ⟨hname, hread⟩
  · rintro ⟨hname, hread⟩
    exact ⟨_, hkept hname, hread⟩

end ReadBack

/-! ## Frames and their text -/

/-- Frames of one kind are not mixed. -/
theorem chunksUnmixed_of_lf {frames : List Bytes} (h : ∀ frame ∈ frames, ¬crlf <:+ frame)
    (received : Bytes) (chunks : List Bytes) : ChunksUnmixed frames received chunks := by
  rintro _ _ _ - done frame between later rest rfl - - ⟨-, hlater⟩
  exact h later (by simp) hlater

/-- The worker takes the frames of a stream one by one, and reads back what is built, exactly if
no chunk completes a frame that ends with two line feeds and a later one that ends with carriage
returns, the event name is a trimmed text on one line and the codec reads its own text back. -/
theorem framing_iff {frames chunks : List Bytes} (hframes : ∀ frame ∈ frames, IsFrame frame)
    (hstream : chunks.flatten = frames.flatten) {codec : SerdeJson} {eventValue : Json}
    (htext : OneLine (ofString (codec.toText eventValue))) (eventName : Option String) :
    (readChunks chunks = (frames, []) ∧ ReadBack codec eventName eventValue) ↔
      ChunksUnmixed frames [] chunks ∧ NameKept eventName ∧
        codec.fromSlice (ofString (codec.toText eventValue)) = some eventValue := by
  have hchunks := foldl_readChunk_iff hframes pending_nil hstream []
  rw [List.nil_append] at hchunks
  exact and_congr hchunks (readBack_iff htext eventName)

instance (bytes : Bytes) : Decidable (Terminated bytes) :=
  inferInstanceAs (Decidable (_ ∨ _))

instance (frame : Bytes) : Decidable (IsFrame frame) :=
  decidable_of_iff (Terminated frame ∧ ∀ front ∈ frame.inits, Terminated front → front = frame)
    (by simp only [List.mem_inits]; rfl)

/-- A codec that knows one text. -/
def nullCodec : SerdeJson where
  fromSlice bytes := if bytes = ofAscii "null" then some .null else none
  toText _ := "null"

def firstFrame : Bytes := ofAscii "data: 1\n\n"

theorem isFrame_firstFrame : IsFrame firstFrame := by decide +kernel

theorem oneLine_nullCodec (eventValue : Json) :
    OneLine (ofString (nullCodec.toText eventValue)) := by
  have hnull : ofString "null" = ofAscii "null" := by
    rw [ofString_eq_ofChars]
    rfl
  change OneLine (ofString "null")
  rw [hnull]
  decide

theorem framing_iff_two_frames :
    readChunks [firstFrame.take 4, firstFrame.drop 4 ++ firstFrame] =
      ([firstFrame, firstFrame], []) ∧ ReadBack nullCodec (some "done") .null := by
  have hframes : ∀ frame ∈ [firstFrame, firstFrame], IsFrame frame := by
    simp [isFrame_firstFrame]
  apply (framing_iff hframes (by decide) (oneLine_nullCodec .null) (some "done")).2
  refine ⟨chunksUnmixed_of_lf ?_ _ _, ?_, ?_⟩
  · simp only [List.mem_cons, List.not_mem_nil, or_false, or_self]
    rintro frame rfl
    decide
  · rintro name hname
    rw [← Option.some.inj hname, ofString_eq_ofChars]
    decide
  · change nullCodec.fromSlice (ofString "null") = some .null
    rw [ofString_eq_ofChars]
    rfl

/-- A frame that ends with carriage returns, in the chunk of one that ends without. -/
def secondFrame : Bytes := ofAscii "data: 2\r\n\r\n"

theorem mixed_frames_taken_as_one :
    IsFrame firstFrame ∧ IsFrame secondFrame ∧
      readChunks [firstFrame ++ secondFrame] = ([firstFrame ++ secondFrame], []) := by
  refine ⟨isFrame_firstFrame, by decide +kernel, ?_⟩
  have hend : findSseFrameEnd (firstFrame ++ secondFrame) =
      some (firstFrame ++ secondFrame).length := by decide +kernel
  have hdrained : drainFrames (firstFrame ++ secondFrame) = ([firstFrame ++ secondFrame], []) := by
    rw [drainFrames_of_some hend, List.take_length, List.drop_length,
      drainFrames_of_pending pending_nil]
  change ([] ++ (drainFrames ([] ++ (firstFrame ++ secondFrame))).1,
    (drainFrames ([] ++ (firstFrame ++ secondFrame))).2) = _
  rw [List.nil_append, List.nil_append, hdrained]

end SseFraming

end CodexPool
