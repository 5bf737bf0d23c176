import GlesBridge.Proxy.Strings

namespace GlesBridge.Strings

open GlesBridge.Data GlesBridge.Gl GlesBridge.Shared GlesBridge.Stub GlesBridge.Proxy

/-! Texts that the driver answers with. -/

section

variable {query : TextQuery} {text result : List UInt8} {bufSize : Size} {client : TextClient}
  {bytes data : Nat → UInt8} {size : Nat}

/-- What the client has after a call of the driver itself. -/
def directText (text : List UInt8) (bufSize : Size) (client : TextClient) : TextClient where
  length := client.length.map fun _ => .ofNat (textLength text bufSize)
  buffer := overwrite 0 (driverText text bufSize).length
    (fun place => (driverText text bufSize).getD place 0) client.buffer

/-- What it has after the call through the bridge. -/
def bridgedText (query : TextQuery) (text : List UInt8) (bufSize : Size) (client : TextClient) :
    Option TextClient :=
  (handleText text bufSize query).bind fun result => takeText client result query

/-- The queries that write the length without a look at the pointer. -/
def needsLength : TextQuery → Bool
  | .glGetProgramResourceName | .glGetProgramPipelineInfoLog => true
  | .glGetActiveUniformBlockName | .glGetObjectLabel | .glGetObjectPtrLabel => false

/-- The text fits the result with its length, the terminator is there already, and
where the length is always written there is a place for it. -/
structure TextFits (query : TextQuery) (text : List UInt8) (bufSize : Size) (client : TextClient) :
    Prop where
  result : 4 + textLength text bufSize ≤ bridgeResultSize
  length : needsLength query = true → client.length.isSome = true
  terminated : bufSize.val ≠ 0 → client.buffer (textLength text bufSize) = 0

/-! ## The buffer -/

theorem textLength_lt : textLength text bufSize < 2147483648 :=
  Nat.lt_of_le_of_lt ((Nat.min_le_right ..).trans (Nat.sub_le ..)) bufSize.isLt

theorem take_driverText : (driverText text bufSize).take (textLength text bufSize) =
    text.take (textLength text bufSize) := by
  unfold driverText textLength
  by_cases none : bufSize.val = 0
  · rw [if_pos none, none]
    simp
  · rw [if_neg none, List.take_append_of_le_length (by rw [List.length_take]; omega), List.take_take]
    congr 1
    omega

theorem handleText_eq : handleText text bufSize query =
    if 4 + textLength text bufSize ≤ bridgeResultSize then
      some (littleEndian 4 (textLength text bufSize) ++ text.take (textLength text bufSize))
    else none := by
  rw [← take_driverText]
  cases query with
  | glGetActiveUniformBlockName | glGetProgramResourceName | glGetProgramPipelineInfoLog
  | glGetObjectLabel | glGetObjectPtrLabel => rfl

theorem resultLen_eq : resultLen (littleEndian 4 (textLength text bufSize) ++
    text.take (textLength text bufSize)) = .ofNat (textLength text bufSize) := by
  have small : textLength text bufSize < 2147483648 := textLength_lt
  have first : (littleEndian 4 (textLength text bufSize) ++
      text.take (textLength text bufSize)).take 4 = littleEndian 4 (textLength text bufSize) :=
    List.take_left' length_littleEndian
  rw [resultLen, first, ofLittleEndian_littleEndian, Nat.mod_eq_of_lt (by omega)]
  rfl

theorem overwrite_congr {other : Nat → UInt8} (same : ∀ place < size, data place = other place) :
    overwrite 0 size data bytes = overwrite 0 size other bytes := by
  funext place
  unfold overwrite
  by_cases inside : 0 ≤ place ∧ place < 0 + size
  · rw [if_pos inside, if_pos inside, same (place - 0) (by omega)]
  · rw [if_neg inside, if_neg inside]

theorem resultText_eq : resultText client
    (littleEndian 4 (textLength text bufSize) ++ text.take (textLength text bufSize))
    (textLength text bufSize) =
      overwrite 0 (textLength text bufSize) (fun place => text.getD place 0) client.buffer := by
  refine overwrite_congr fun place below => ?_
  simp [List.getD_eq_getElem?_getD, List.getElem?_append, below]

/-- The driver writes the text and, where it writes at all, the terminator. -/
theorem directText_buffer : (directText text bufSize client).buffer =
    if bufSize.val = 0 then client.buffer
    else
      Function.update
        (overwrite 0 (textLength text bufSize) (fun place => text.getD place 0) client.buffer)
        (textLength text bufSize) 0 := by
  unfold directText driverText
  by_cases none : bufSize.val = 0
  · simp only [if_pos none]
    funext place
    exact if_neg fun inside => by simp at inside
  · simp only [if_neg none]
    have size : (text.take (bufSize.val - 1)).length = textLength text bufSize := by
      rw [List.length_take, textLength, Nat.min_comm]
    have less : textLength text bufSize ≤ bufSize.val - 1 := Nat.min_le_right ..
    funext place
    rw [List.length_append, size, List.length_singleton]
    rcases Nat.lt_trichotomy place (textLength text bufSize) with below | rfl | above
    · rw [Function.update_of_ne (Nat.ne_of_lt below), overwrite, overwrite, if_pos (by omega),
        if_pos (by omega), List.getD_append _ _ _ _ (by omega)]
      simp [List.getD_eq_getElem?_getD, below.trans_le less]
    · rw [Function.update_self, overwrite, if_pos (by omega), List.getD_append_right _ _ _ _ (by omega),
        size]
      simp
    · rw [Function.update_of_ne (Nat.ne_of_gt above), overwrite, overwrite, if_neg (by omega),
        if_neg (by omega)]

/-! ## The queries -/

/-- What the stub makes of a result. -/
theorem takeText_eq : takeText client
    (littleEndian 4 (textLength text bufSize) ++ text.take (textLength text bufSize)) query =
      if needsLength query = true ∧ client.length = none then none
      else
        some
          { length := client.length.map fun _ => .ofNat (textLength text bufSize)
            buffer := overwrite 0 (textLength text bufSize) (fun place => text.getD place 0)
              client.buffer } := by
  have size : (Int32.ofNat (textLength text bufSize)).toNatClampNeg = textLength text bufSize :=
    Int32.toNatClampNeg_ofNat_of_lt textLength_lt
  have stored : storeText client
      (littleEndian 4 (textLength text bufSize) ++ text.take (textLength text bufSize)) =
        if client.length = none then none
        else
          some
            { length := client.length.map fun _ => .ofNat (textLength text bufSize)
              buffer := overwrite 0 (textLength text bufSize) (fun place => text.getD place 0)
                client.buffer } := by
    rw [storeText, resultLen_eq, size, resultText_eq]
    cases client.length with
    | none => rfl
    | some place => rfl
  have label : storeLabel client
      (littleEndian 4 (textLength text bufSize) ++ text.take (textLength text bufSize)) =
        some
          { length := client.length.map fun _ => .ofNat (textLength text bufSize)
            buffer := overwrite 0 (textLength text bufSize) (fun place => text.getD place 0)
              client.buffer } := by
    rw [storeLabel, resultLen_eq, size, resultText_eq]
    by_cases some : 0 < Int32.ofNat (textLength text bufSize)
    · rw [if_pos some]
    · -- An empty text is not copied, which makes no difference.
      rw [Int32.lt_iff_toInt_lt, Int32.toInt_ofNat_of_lt textLength_lt, Int32.toInt_zero] at some
      have empty : textLength text bufSize = 0 := by omega
      have same : overwrite 0 0 (fun place => text.getD place 0) client.buffer = client.buffer :=
        funext fun place => if_neg fun inside => by simp at inside
      rw [empty, same, ite_self]
  cases query with
  | glGetProgramResourceName | glGetProgramPipelineInfoLog =>
      exact stored.trans (if_congr (and_iff_right rfl).symm rfl rfl)
  | glGetObjectLabel | glGetObjectPtrLabel =>
      rw [if_neg fun both => Bool.false_ne_true both.1]
      exact label
  | glGetActiveUniformBlockName =>
      rw [if_neg fun both => Bool.false_ne_true both.1]
      change some (TextClient.mk _ (resultText client _ (resultLen _).toNatClampNeg)) = _
      rw [resultLen_eq, size, resultText_eq]

/-- The client has what a call of the driver gives it exactly if the text fits. -/
theorem text_query_iff (query : TextQuery) (text : List UInt8) (bufSize : Size)
    (client : TextClient) :
    bridgedText query text bufSize client = some (directText text bufSize client) ↔
      TextFits query text bufSize client := by
  rw [bridgedText, handleText_eq]
  by_cases fits : 4 + textLength text bufSize ≤ bridgeResultSize
  · rw [if_pos fits, Option.bind_some, takeText_eq]
    by_cases refused : needsLength query = true ∧ client.length = none
    · rw [if_pos refused]
      refine iff_of_false (by simp) fun all => ?_
      have given := all.length refused.1
      rw [refused.2] at given
      cases given
    · have given : needsLength query = true → client.length.isSome = true := fun needs =>
        Option.isSome_iff_ne_none.mpr fun none => refused ⟨needs, none⟩
      have outside : overwrite 0 (textLength text bufSize) (fun place => text.getD place 0)
          client.buffer (textLength text bufSize) = client.buffer (textLength text bufSize) :=
        if_neg (by omega)
      have exact : overwrite 0 (textLength text bufSize) (fun place => text.getD place 0)
          client.buffer = (directText text bufSize client).buffer ↔
            (bufSize.val ≠ 0 → client.buffer (textLength text bufSize) = 0) := by
        rw [directText_buffer]
        by_cases none : bufSize.val = 0
        · have empty : textLength text bufSize = 0 := by
            rw [textLength, none]
            exact Nat.min_zero _
          rw [if_pos none, empty]
          refine iff_of_true (funext fun place => if_neg (by omega)) fun some => absurd none some
        · rw [if_neg none, eq_comm, Function.update_eq_self_iff, outside]
          exact ⟨fun zero _ => zero.symm, fun zero => (zero none).symm⟩
      rw [if_neg refused, Option.some.injEq]
      constructor
      · intro same
        exact ⟨fits, given, exact.mp (congrArg TextClient.buffer same)⟩
      · intro all
        exact congrArg (TextClient.mk _) (exact.mpr all.terminated)
  · rw [if_neg fits]
    exact iff_of_false (by simp) fun all => fits all.result

/-- A label of two letters comes without its terminator. -/
theorem label_unterminated :
    ∃ after, bridgedText .glGetObjectLabel [65, 66] 16 ⟨some 0, fun _ => 255⟩ = some after ∧
      after.buffer 2 = 255 ∧ (directText [65, 66] 16 ⟨some 0, fun _ => 255⟩).buffer 2 = 0 :=
  ⟨_, rfl, by decide, by decide⟩

end

/-! ## The debug log -/

section

variable {log done rest messages : List DebugMessage} {message : DebugMessage} {count : UInt32}
  {bufSize : Size} {pointers : LogPointers} {stack client arrays : LogBuffers}
  {head piece result : List UInt8} {array : LogArray} {place : Nat}

/-- What the client has after the call through the bridge, and what is left in the log. -/
def bridgedLog (log : List DebugMessage) (count : UInt32) (bufSize : Size) (pointers : LogPointers)
    (stack client : LogBuffers) : Option LogAnswer :=
  (hGlGetDebugMessageLog log count bufSize stack).map fun answer =>
    let taken := glGetDebugMessageLog pointers answer.1 client
    { num := taken.1
      buffers := taken.2
      log := answer.2 }

/-- What the handler gets of the log. -/
def arriving (log : List DebugMessage) (count : UInt32) (bufSize : Size) : List DebugMessage :=
  log.take (logged log count bufSize stackPointers)

/-- The records of the messages that come fit the result, and where the client wants no
texts, those of all messages that `count` allows fit `bufSize` nevertheless. -/
structure LogFits (log : List DebugMessage) (count : UInt32) (bufSize : Size)
    (pointers : LogPointers) : Prop where
  result : 4 + ((arriving log count bufSize).map fun message => 20 + message.length).sum ≤
    bridgeResultSize
  texts : pointers.messageLog = false →
    ((log.take count.toNat).map (·.length)).sum ≤ bufSize.val

/-- A message as it stands in the result. -/
def record (message : DebugMessage) : List UInt8 :=
  [LogArray.sources, .types, .ids, .severities, .lengths].flatMap (fun array =>
      littleEndian 4 (message.word array).toNat) ++
    message.bytes

def texts (messages : List DebugMessage) : List UInt8 := messages.flatMap (·.bytes)

/-! ### A record -/

theorem length_bytes : message.bytes.length = message.length := List.length_append

theorem length_record : (record message).length = 20 + message.length := by
  simp [record, length_bytes]
  omega

theorem toNat_length : (message.word .lengths).toNat = message.length :=
  UInt32.toNat_ofNat_of_lt' (message.short.trans (by decide))

theorem toInt32_length : (message.word .lengths).toInt32 = .ofNat message.length := rfl

theorem texts_append : texts (done ++ rest) = texts done ++ texts rest := List.flatMap_append

theorem texts_cons : texts (message :: rest) = message.bytes ++ texts rest := List.flatMap_cons

theorem texts_concat : texts (done ++ [message]) = texts done ++ message.bytes := by
  rw [texts_append, texts_cons]
  exact congrArg _ (List.append_nil _)

theorem length_texts_concat :
    (texts (done ++ [message])).length = (texts done).length + message.length := by
  rw [texts_concat, List.length_append, length_bytes]

theorem length_records : (messages.flatMap record).length =
    (messages.map fun message => 20 + message.length).sum := by
  rw [List.length_flatMap]
  exact congrArg List.sum (List.map_congr_left fun message _ => length_record)

theorem chunk_head {size : Nat} (length : piece.length = size) : chunk (piece ++ result) 0 size = piece := by
  rw [chunk, List.drop_zero, List.take_left' length]

theorem chunk_behind {size : Nat} :
    chunk (piece ++ result) (piece.length + place) size = chunk result place size := by
  rw [chunk, chunk, List.drop_length_add_append]

/-- The reads of a turn give the words of its record. -/
theorem logWord_record : logWord (head ++ (record message ++ result)) head.length array =
    message.word array := by
  have word (array : LogArray) : (littleEndian 4 (message.word array).toNat).length = 4 :=
    length_littleEndian
  have read : chunk (head ++ (record message ++ result)) (head.length + 4 * logIndex array) 4 =
      littleEndian 4 (message.word array).toNat := by
    rw [chunk_behind, record, List.append_assoc]
    simp only [List.flatMap_cons, List.flatMap_nil, List.append_assoc]
    have next {place : Nat} {array : LogArray} {result : List UInt8} :
        chunk (littleEndian 4 (message.word array).toNat ++ result) (4 + place) 4 =
          chunk result place 4 := by
      rw [← word array]
      exact chunk_behind
    cases array with
    | sources => exact chunk_head (word _)
    | types => exact next.trans (chunk_head (word _))
    | ids => exact (next.trans next).trans (chunk_head (word _))
    | severities => exact ((next.trans next).trans next).trans (chunk_head (word _))
    | lengths => exact (((next.trans next).trans next).trans next).trans (chunk_head (word _))
  rw [logWord, read, ofLittleEndian_littleEndian, Nat.mod_eq_of_lt (message.word array).toNat_lt]
  exact UInt32.ofNat_toNat

/-- The text stands behind them. -/
theorem record_text (below : place < message.length) :
    (head ++ (record message ++ result)).getD (head.length + 20 + place) 0 =
      message.bytes.getD place 0 := by
  have inside : place < message.bytes.length := length_bytes.symm ▸ below
  have words : (record message).length = 20 + message.bytes.length := by
    rw [length_record, length_bytes]
  rw [Nat.add_assoc, List.getD_append_right _ _ _ _ (Nat.le_add_right ..), Nat.add_sub_cancel_left,
    List.getD_append _ _ _ _ (by omega), record,
    List.getD_append_right _ _ _ _ (by simp), List.length_flatMap]
  simp

/-! ### The loop of the handler -/

/-- What the driver has put into the arrays at the turn of a message. -/
theorem stored_word : (stack.store stackPointers (done ++ message :: rest)).words array done.length =
    message.word array := by
  change inFront _ _ _ = _
  rw [inFront_inside (by simp)]
  simp

theorem stored_texts :
    Ring.readBytes (stack.store stackPointers (done ++ message :: rest)).messageLog
      (texts done).length message.length = message.bytes := by
  have split : texts (done ++ message :: rest) = texts done ++ (message.bytes ++ texts rest) := by
    rw [texts_append, texts_cons]
  refine List.ext_getElem (by simp [Ring.readBytes, length_bytes]) fun place _ inside => ?_
  have below : place < (message.bytes ++ texts rest).length := by
    rw [List.length_append]
    omega
  simp only [Ring.readBytes, List.getElem_map, List.getElem_range]
  change inFront (texts (done ++ message :: rest)) _ _ = _
  rw [inFront_inside (by rw [split, List.length_append]; omega)]
  simp only [split]
  rw [List.getElem_append_right (Nat.le_add_right ..)]
  simp only [Nat.add_sub_cancel_left]
  exact List.getElem_append_left inside

theorem logRecord_eq : logRecord (stack.store stackPointers (done ++ message :: rest)) done.length
    (texts done).length = record message := by
  unfold logRecord record
  simp only [stored_word, toNat_length, stored_texts]

/-- The loop writes the records, unless they go past the end. -/
theorem packLog_eq (room : result.length ≤ bridgeResultSize) :
    packLog (stack.store stackPointers (done ++ rest)) done.length rest.length (texts done).length
      result =
      if result.length + (rest.flatMap record).length ≤ bridgeResultSize then
        some (result ++ rest.flatMap record)
      else none := by
  induction rest generalizing done result with
  | nil => simp [packLog, room]
  | cons message rest ih =>
      rw [List.length_cons, packLog, logRecord_eq, stored_word, toNat_length, List.flatMap_cons,
        List.length_append]
      by_cases fits : result.length + (record message).length ≤ bridgeResultSize
      · have turn : done ++ message :: rest = (done ++ [message]) ++ rest := by simp
        have later : (done ++ [message]).length = done.length + 1 := List.length_append
        rw [if_pos fits, turn, ← length_texts_concat, ← later, ih (by rw [List.length_append]; exact fits),
          List.length_append, Nat.add_assoc, List.append_assoc]
      · rw [if_neg fits, if_neg (by omega)]

/-! ### The loop of the stub -/

/-- How far the client's pointer to the texts has moved. -/
def movedText (pointers : LogPointers) (done : List DebugMessage) : Nat :=
  if pointers.messageLog then (texts done).length else 0

theorem store_nil : client.store pointers [] = client := by
  obtain ⟨words, messageLog⟩ := client
  simp [LogBuffers.store]

/-- A text behind those that are there. -/
theorem overwrite_inFront {more : List UInt8} {bytes data : Nat → UInt8}
    (same : ∀ place < piece.length, data place = piece.getD place 0) :
    overwrite more.length piece.length data (inFront more bytes) = inFront (more ++ piece) bytes := by
  funext place
  unfold overwrite inFront
  by_cases before : place < more.length
  · rw [if_neg (by omega), List.getD_append _ _ _ _ before]
  · rw [List.getD_append_right _ _ _ _ (Nat.le_of_not_lt before)]
    by_cases inside : place < more.length + piece.length
    · have below : place - more.length < piece.length := by omega
      rw [if_pos ⟨Nat.le_of_not_lt before, inside⟩, same _ below, List.getD_eq_getElem _ _ below,
        List.getD_eq_getElem _ _ below]
    · rw [if_neg (by omega), List.getD_eq_default _ _ (Nat.le_of_not_lt before),
        List.getD_eq_default _ _ (by omega)]

/-- A turn stores one message more. -/
theorem store_concat {data : Nat → UInt8}
    (same : ∀ place < message.length, data place = message.bytes.getD place 0) :
    client.store pointers (done ++ [message]) =
      { words := fun array =>
          if pointers.array array then
            Function.update ((client.store pointers done).words array) done.length
              (message.word array)
          else (client.store pointers done).words array
        messageLog :=
          if pointers.messageLog then
            overwrite (movedText pointers done) message.length data
              (client.store pointers done).messageLog
          else (client.store pointers done).messageLog } := by
  unfold LogBuffers.store
  congr 1
  · funext array
    dsimp only
    cases pointers.array array with
    | false => rfl
    | true =>
        simp only [if_true, List.map_append, List.map_singleton, inFront_concat, List.length_map]
  · unfold movedText
    cases pointers.messageLog with
    | false => rfl
    | true =>
        rw [← length_bytes] at same ⊢
        simp only [if_true]
        exact (congrArg (inFront · _) texts_concat).trans (overwrite_inFront same).symm

/-- The loop stores the messages behind those that it has stored. -/
theorem unpackLog_eq :
    unpackLog pointers (head ++ rest.flatMap record) done.length rest.length head.length
      (movedText pointers done) (client.store pointers done) =
      client.store pointers (done ++ rest) := by
  induction rest generalizing done head with
  | nil => rw [List.length_nil, unpackLog, List.append_nil]
  | cons message rest ih =>
      have size : (Int32.ofNat message.length).toNatClampNeg = message.length :=
        Int32.toNatClampNeg_ofNat_of_lt message.short
      have positive : 0 < Int32.ofNat message.length := by
        have value : (Int32.ofNat message.length).toInt = message.length :=
          Int32.toInt_ofNat_of_lt message.short
        rw [Int32.lt_iff_toInt_lt, value, Int32.toInt_zero]
        exact Int.natCast_pos.mpr (Nat.succ_pos _)
      have turn : done ++ message :: rest = (done ++ [message]) ++ rest := by simp
      have behind : head ++ (record message ++ rest.flatMap record) =
          (head ++ record message) ++ rest.flatMap record := (List.append_assoc ..).symm
      have next : head.length + 20 + message.length = (head ++ record message).length := by
        rw [List.length_append, length_record, Nat.add_assoc]
      have moved : (if pointers.messageLog then movedText pointers done + message.length
          else movedText pointers done) = movedText pointers (done ++ [message]) := by
        unfold movedText
        cases pointers.messageLog with
        | false => rfl
        | true => exact length_texts_concat.symm
      have later : (done ++ [message]).length = done.length + 1 := List.length_append
      have text : ∀ place < message.length,
          (head ++ (record message ++ rest.flatMap record)).getD (head.length + 20 + place) 0 =
            message.bytes.getD place 0 := fun place => record_text
      have stored : client.store pointers (done ++ [message]) = _ := store_concat text
      rw [List.length_cons, unpackLog, List.flatMap_cons]
      simp only [logWord_record, toInt32_length, size, positive, decide_true, Bool.and_true]
      rw [← stored, moved, behind, next, ← later, ih, turn]

/-! ### The query -/

theorem logged_le_length : logged log count bufSize pointers ≤ log.length := by
  unfold logged
  split
  · have taken := (fetched_initial : fetched count.toNat bufSize.val (log.map (·.length)) <+: _).length_le
    rwa [List.length_map] at taken
  · exact Nat.min_le_right ..

theorem logged_lt : logged log count bufSize pointers < 2 ^ 32 := by
  refine Nat.lt_of_le_of_lt ?_ count.toNat_lt
  unfold logged
  split
  · exact fetched_length
  · exact Nat.min_le_left ..

/-- As many messages come for a client without texts as for the handler. -/
theorem logged_eq_iff :
    logged log count bufSize stackPointers = logged log count bufSize pointers ↔
      (pointers.messageLog = false →
        ((log.take count.toNat).map (·.length)).sum ≤ bufSize.val) := by
  have whole : (fetched count.toNat bufSize.val (log.map (·.length))).length = _ ↔ _ :=
    fetched_length_eq_iff
  rw [List.length_map, ← List.map_take] at whole
  cases texts : pointers.messageLog with
  | true => simp [logged, stackPointers, texts]
  | false => simp [logged, stackPointers, texts, whole]

theorem length_arriving :
    (arriving log count bufSize).length = logged log count bufSize stackPointers :=
  List.length_take_of_le logged_le_length

theorem hGlGetDebugMessageLog_eq : hGlGetDebugMessageLog log count bufSize stack =
    if 4 + ((arriving log count bufSize).map fun message => 20 + message.length).sum ≤
        bridgeResultSize then
      some (littleEndian 4 (arriving log count bufSize).length ++
          (arriving log count bufSize).flatMap record,
        log.drop (logged log count bufSize stackPointers))
    else none := by
  have number : (UInt32.ofNat (logged log count bufSize stackPointers)).toNat =
      (arriving log count bufSize).length := by
    rw [length_arriving, UInt32.toNat_ofNat_of_lt' logged_lt]
  have first : (littleEndian 4 (arriving log count bufSize).length).length = 4 := length_littleEndian
  have packed : packLog (stack.store stackPointers ([] ++ arriving log count bufSize))
      ([] : List DebugMessage).length (arriving log count bufSize).length (texts []).length
      (littleEndian 4 (arriving log count bufSize).length) = _ :=
    packLog_eq (first.le.trans (by decide))
  unfold hGlGetDebugMessageLog driverLog
  dsimp only
  rw [number]
  refine (congrArg _ packed).trans ?_
  rw [first, length_records]
  split
  · rfl
  · rfl

theorem glGetDebugMessageLog_eq (few : messages.length < 2 ^ 32) :
    Stub.glGetDebugMessageLog pointers (littleEndian 4 messages.length ++ messages.flatMap record)
      client = (.ofNat messages.length, client.store pointers messages) := by
  have first : (littleEndian 4 messages.length).length = 4 := length_littleEndian
  have number : ofLittleEndian (chunk (littleEndian 4 messages.length ++ messages.flatMap record) 0 4) =
      messages.length := by
    rw [chunk_head first, ofLittleEndian_littleEndian]
    exact Nat.mod_eq_of_lt few
  have turns : (UInt32.ofNat messages.length).toNat = messages.length :=
    UInt32.toNat_ofNat_of_lt' few
  have moved : movedText pointers [] = 0 := ite_self 0
  have unpacked : unpackLog pointers (littleEndian 4 messages.length ++ messages.flatMap record)
      _ _ _ _ (client.store pointers []) = _ := unpackLog_eq
  rw [first, moved, store_nil] at unpacked
  unfold Stub.glGetDebugMessageLog
  dsimp only
  rw [number, turns]
  exact congrArg (Prod.mk _) unpacked

/-- The client has what a call of the driver gives it, and the driver keeps the same
messages, exactly if what comes fits. -/
theorem debug_log_iff (log : List DebugMessage) (count : UInt32) (bufSize : Size)
    (pointers : LogPointers) (stack client : LogBuffers) :
    bridgedLog log count bufSize pointers stack client =
        some (driverLog log count bufSize pointers client) ↔
      LogFits log count bufSize pointers := by
  unfold bridgedLog
  rw [hGlGetDebugMessageLog_eq]
  by_cases fits : 4 + ((arriving log count bufSize).map fun message => 20 + message.length).sum ≤
      bridgeResultSize
  · have few : (arriving log count bufSize).length < 2 ^ 32 := length_arriving.trans_lt logged_lt
    rw [if_pos fits, Option.map_some, glGetDebugMessageLog_eq few, length_arriving,
      Option.some.injEq]
    constructor
    · intro same
      have number : UInt32.ofNat (logged log count bufSize stackPointers) =
          .ofNat (logged log count bufSize pointers) := congrArg LogAnswer.num same
      have equal := congrArg UInt32.toNat number
      rw [UInt32.toNat_ofNat_of_lt' logged_lt, UInt32.toNat_ofNat_of_lt' logged_lt] at equal
      exact ⟨fits, logged_eq_iff.mp equal⟩
    · intro all
      unfold arriving driverLog
      rw [logged_eq_iff.mpr all.texts]
  · rw [if_neg fits]
    exact iff_of_false (by simp) fun all => fits all.result

end

end GlesBridge.Strings
