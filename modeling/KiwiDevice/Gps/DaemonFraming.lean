import KiwiDevice.Gps.DaemonMessages

/-!
# How the control messages are framed

A receiver is safe exactly if the size that comes first is not below its own size, and the server if
the message also has the fields that its own type and sender ask for. What is sent is received as
long as no read is short.
-/

namespace KiwiDevice.Gps.Daemon

open Lib (toInt toInt_of_lt ofBytes ofBytes_lt ofBytes_toBytes toBytes length_toBytes)

variable {a : Abi} {rcv : Receiver} {handle : Bool} {limit limit₁ limit₂ : Option Nat}
  {pipe msg : List UInt8} {n : Nat}

/-- All of the `n` bytes are there and the read gives them. -/
def Gives (limit : Option Nat) (n : Nat) (pipe : List UInt8) : Prop :=
  (∃ k, limit = some k ∧ n ≤ k) ∧ n ≤ pipe.length

/-- The size at the start of the pipe. -/
def announced (rcv : Receiver) (pipe : List UInt8) : Nat := ofBytes (pipe.take rcv.abi.word)

/-- What `msgrcv` promises. -/
structure Framed (rcv : Receiver) (r : MsgRcv) : Prop where
  inBuffer : ∀ offset sz, (offset, sz) ∈ r.asked → offset + sz ≤ rcv.msgbufsz
  whole : 0 ≤ r.ret → r.ret = r.stored.length ∧ announced rcv r.stored = r.stored.length ∧
    rcv.abi.word ≤ r.stored.length

/-- The size that is read is at least its own size. -/
def NotShort (rcv : Receiver) (limit₁ : Option Nat) (pipe : List UInt8) : Prop :=
  Gives limit₁ rcv.abi.word pipe → rcv.abi.word ≤ announced rcv pipe

/-- The message fits and is read as a whole. -/
structure Whole (rcv : Receiver) (limit₁ limit₂ : Option Nat) (pipe : List UInt8) : Prop where
  size : Gives limit₁ rcv.abi.word pipe
  fits : announced rcv pipe ≤ rcv.msgbufsz
  body : Gives limit₂ (announced rcv pipe - rcv.abi.word) (pipe.drop rcv.abi.word)

def typeOf (a : Abi) (msg : List UInt8) : Option Int :=
  ifRequestType (ofBytes ((msg.drop a.typeAt).take 4))

def senderOf (a : Abi) (msg : List UInt8) : Option SenderId :=
  ifRequestSenderId (ofBytes ((msg.drop a.senderIdAt).take 4))

/-- The message has the fields that it tells the handlers to read: the next field starts where the
last one ends, and the two strings end in the message. -/
def HasRequest (a : Abi) (msg : List UInt8) : Prop :=
  a.senderIdAt ≤ msg.length ∧ (typeOf a msg ≠ none → a.ipv4AddrAt ≤ msg.length ∧
    (senderOf a msg = some .gpsoneDaemon → a.ssidAt ≤ msg.length) ∧
    ((∃ sender, senderOf a msg = some sender ∧ sender ≠ .gpsoneDaemon) → 0 ∈ msg.drop a.passwordAt))

def Complete (a : Abi) (handle : Bool) (msg : List UInt8) : Prop :=
  ∃ ctrlType, msg[a.ctrlTypeAt]? = some ctrlType ∧
    ((ctrlType = gpsoneLocApiIfRequest ∧ handle = true ∨ ctrlType = gpsoneLocApiIfRelease) →
      HasRequest a msg)

/-! ## One read -/

theorem piperead_gives (hSmall : n < 2 ^ 31) (h : Gives limit n pipe) :
    piperead limit n pipe = ⟨n, pipe.take n, pipe.drop n⟩ := by
  obtain ⟨⟨k, rfl, hk⟩, hLength⟩ := h
  rw [piperead, Nat.min_eq_left hLength, Nat.min_eq_right hk, toInt_of_lt hSmall]

theorem piperead_less (hSmall : n < 2 ^ 31) (h : ¬ Gives limit n pipe) :
    (piperead limit n pipe).ret ≠ n := by
  cases limit with
  | none =>
    have hRet : (piperead none n pipe).ret = -1 := rfl
    rw [hRet]
    omega
  | some k =>
    have hLess : min k (min n pipe.length) ≠ n := by
      intro hAll
      exact h ⟨⟨k, rfl, by omega⟩, by omega⟩
    rw [piperead]
    dsimp only
    rw [toInt_of_lt (by omega)]
    omega

/-! ## One message -/

theorem word_pos (a : Abi) : 0 < a.word := by cases a <;> decide

theorem word_small (a : Abi) : a.word < 2 ^ 31 := by cases a <;> decide

theorem le_size_t (a : Abi) : 2 ^ 31 ≤ 256 ^ a.word := by cases a <;> decide

theorem announced_lt (rcv : Receiver) (hGives : Gives limit rcv.abi.word pipe) :
    announced rcv pipe < 256 ^ rcv.abi.word := by
  have hLt := ofBytes_lt (pipe.take rcv.abi.word)
  rwa [List.length_take, Nat.min_eq_left hGives.2] at hLt

theorem msgrcv_noSize (limit₂ : Option Nat) (h : ¬ Gives limit₁ rcv.abi.word pipe) :
    (msgrcv rcv limit₁ limit₂ pipe).asked = [(0, rcv.abi.word)] ∧
      (msgrcv rcv limit₁ limit₂ pipe).ret = -1 := by
  rw [msgrcv, if_pos (piperead_less (word_small _) h)]
  exact ⟨rfl, rfl⟩

theorem msgrcv_sized (limit₂ : Option Nat) (h : Gives limit₁ rcv.abi.word pipe) :
    msgrcv rcv limit₁ limit₂ pipe =
      if rcv.msgbufsz < announced rcv pipe then
        ⟨[(0, rcv.abi.word)], -1, pipe.take rcv.abi.word, pipe.drop rcv.abi.word⟩
      else
        let sz := (announced rcv pipe + 256 ^ rcv.abi.word - rcv.abi.word) % 256 ^ rcv.abi.word
        let second := piperead limit₂ sz (pipe.drop rcv.abi.word)
        ⟨[(0, rcv.abi.word), (rcv.abi.word, sz)],
          if second.ret ≠ toInt sz then -1 else toInt (announced rcv pipe),
          pipe.take rcv.abi.word ++ second.stored, second.pipe⟩ := by
  rw [msgrcv, piperead_gives (word_small _) h]
  exact if_neg fun hNe => hNe rfl

theorem msgrcv_tooLong (limit₂ : Option Nat) (h : Gives limit₁ rcv.abi.word pipe)
    (hLong : rcv.msgbufsz < announced rcv pipe) :
    (msgrcv rcv limit₁ limit₂ pipe).asked = [(0, rcv.abi.word)] ∧
      (msgrcv rcv limit₁ limit₂ pipe).ret = -1 := by
  rw [msgrcv_sized limit₂ h, if_pos hLong]
  exact ⟨rfl, rfl⟩

theorem msgrcv_body (limit₂ : Option Nat) (h : Gives limit₁ rcv.abi.word pipe)
    (hLow : rcv.abi.word ≤ announced rcv pipe) (hFits : announced rcv pipe ≤ rcv.msgbufsz) :
    msgrcv rcv limit₁ limit₂ pipe =
      let second := piperead limit₂ (announced rcv pipe - rcv.abi.word) (pipe.drop rcv.abi.word)
      ⟨[(0, rcv.abi.word), (rcv.abi.word, announced rcv pipe - rcv.abi.word)],
        if second.ret ≠ (announced rcv pipe - rcv.abi.word : Nat) then -1 else announced rcv pipe,
        pipe.take rcv.abi.word ++ second.stored, second.pipe⟩ := by
  have hSmall := rcv.small
  have hLt := announced_lt rcv h
  have hSz : (announced rcv pipe + 256 ^ rcv.abi.word - rcv.abi.word) % 256 ^ rcv.abi.word =
      announced rcv pipe - rcv.abi.word := by
    have hSplit : announced rcv pipe + 256 ^ rcv.abi.word - rcv.abi.word =
        announced rcv pipe - rcv.abi.word + 256 ^ rcv.abi.word := by omega
    rw [hSplit, Nat.add_mod_right, Nat.mod_eq_of_lt (by omega)]
  have hBody : toInt (announced rcv pipe - rcv.abi.word) = (announced rcv pipe - rcv.abi.word : Nat) :=
    toInt_of_lt (by omega)
  have hAll : toInt (announced rcv pipe) = announced rcv pipe := toInt_of_lt (by omega)
  rw [msgrcv_sized limit₂ h, if_neg (Nat.not_lt_of_le hFits)]
  dsimp only
  rw [hSz, hBody, hAll]

theorem msgrcv_short (limit₂ : Option Nat) (h : Gives limit₁ rcv.abi.word pipe)
    (hShort : announced rcv pipe < rcv.abi.word) :
    (rcv.abi.word, announced rcv pipe + 256 ^ rcv.abi.word - rcv.abi.word) ∈
      (msgrcv rcv limit₁ limit₂ pipe).asked := by
  have hHolds := rcv.holdsSize
  have hSize := le_size_t rcv.abi
  have hWord := word_small rcv.abi
  have hMod : (announced rcv pipe + 256 ^ rcv.abi.word - rcv.abi.word) % 256 ^ rcv.abi.word =
      announced rcv pipe + 256 ^ rcv.abi.word - rcv.abi.word := Nat.mod_eq_of_lt (by omega)
  rw [msgrcv_sized limit₂ h, if_neg (by omega)]
  dsimp only
  rw [hMod]
  exact List.mem_cons_of_mem _ List.mem_cons_self

theorem msgrcv_whole (h : Whole rcv limit₁ limit₂ pipe) (hLow : rcv.abi.word ≤ announced rcv pipe) :
    msgrcv rcv limit₁ limit₂ pipe =
      ⟨[(0, rcv.abi.word), (rcv.abi.word, announced rcv pipe - rcv.abi.word)], announced rcv pipe,
        pipe.take (announced rcv pipe), pipe.drop (announced rcv pipe)⟩ := by
  have hSmall := rcv.small
  have hFits := h.fits
  rw [msgrcv_body limit₂ h.size hLow hFits, piperead_gives (by omega) h.body]
  dsimp only
  rw [if_neg (fun hNe => hNe rfl), List.drop_drop, Nat.add_sub_cancel' hLow,
    ← List.take_add, Nat.add_sub_cancel' hLow]

theorem msgrcv_ret_of_not_whole (hNotShort : NotShort rcv limit₁ pipe)
    (h : ¬ Whole rcv limit₁ limit₂ pipe) : (msgrcv rcv limit₁ limit₂ pipe).ret = -1 := by
  by_cases hSize : Gives limit₁ rcv.abi.word pipe
  · rcases Nat.lt_or_ge rcv.msgbufsz (announced rcv pipe) with hLong | hFits
    · exact (msgrcv_tooLong limit₂ hSize hLong).2
    · have hSmall := rcv.small
      have hBody : ¬ Gives limit₂ (announced rcv pipe - rcv.abi.word) (pipe.drop rcv.abi.word) :=
        fun hBody => h ⟨hSize, hFits, hBody⟩
      rw [msgrcv_body limit₂ hSize (hNotShort hSize) hFits]
      exact if_pos (piperead_less (by omega) hBody)
  · exact (msgrcv_noSize limit₂ hSize).2

theorem Whole.length_le (h : Whole rcv limit₁ limit₂ pipe) : announced rcv pipe ≤ pipe.length := by
  have hBody := h.body.2
  have hSize := h.size.2
  rw [List.length_drop] at hBody
  omega

theorem framed_iff (rcv : Receiver) (limit₁ limit₂ : Option Nat) (pipe : List UInt8) :
    Framed rcv (msgrcv rcv limit₁ limit₂ pipe) ↔ NotShort rcv limit₁ pipe := by
  constructor
  · intro hFramed hSize
    by_contra hShort
    have hAsked := hFramed.inBuffer _ _ (msgrcv_short limit₂ hSize (Nat.lt_of_not_le hShort))
    have hSmall := rcv.small
    have hSizeT := le_size_t rcv.abi
    have hWord := word_small rcv.abi
    omega
  · intro hNotShort
    have hHolds := rcv.holdsSize
    constructor
    · intro offset sz hAsked
      by_cases hSize : Gives limit₁ rcv.abi.word pipe
      · rcases Nat.lt_or_ge rcv.msgbufsz (announced rcv pipe) with hLong | hFits
        · rw [(msgrcv_tooLong limit₂ hSize hLong).1, List.mem_singleton] at hAsked
          cases hAsked
          omega
        · have hLow := hNotShort hSize
          rw [msgrcv_body limit₂ hSize hLow hFits] at hAsked
          rcases List.mem_cons.mp hAsked with hFirst | hSecond
          · cases hFirst
            omega
          · cases List.mem_singleton.mp hSecond
            omega
      · rw [(msgrcv_noSize limit₂ hSize).1, List.mem_singleton] at hAsked
        cases hAsked
        omega
    · intro hRet
      by_cases hWhole : Whole rcv limit₁ limit₂ pipe
      · have hLow := hNotShort hWhole.size
        have hLength : (pipe.take (announced rcv pipe)).length = announced rcv pipe := by
          rw [List.length_take, Nat.min_eq_left hWhole.length_le]
        rw [msgrcv_whole hWhole hLow]
        refine ⟨congrArg Nat.cast hLength.symm, ?_, hLow.trans_eq hLength.symm⟩
        dsimp only
        rw [hLength, announced, List.take_take, Nat.min_eq_left hLow, ← announced]
      · rw [msgrcv_ret_of_not_whole hNotShort hWhole] at hRet
        exact absurd hRet (by decide)

/-! ## The fields of a message -/

theorem field_some {offset size : Nat} (h : offset + size ≤ msg.length) :
    field msg offset size = some ((msg.drop offset).take size) := if_pos h

theorem field_none (offset size : Nat) (h : ¬ offset + size ≤ msg.length) :
    field msg offset size = none := if_neg h

theorem mem_drop_of_le {m : Nat} (h : n ≤ m) (hMem : 0 ∈ msg.drop m) : 0 ∈ msg.drop n := by
  obtain ⟨k, rfl⟩ := Nat.exists_eq_add_of_le h
  rw [← List.drop_drop] at hMem
  exact List.mem_of_mem_drop hMem

theorem strings_isSome (a : Abi) (msg : List UInt8)
    (f : List UInt8 → List UInt8 → Int × Option EngineMsg) :
    ((stringField msg a.ssidAt).bind fun ssid =>
      (stringField msg a.passwordAt).map (f ssid)).isSome = true ↔ 0 ∈ msg.drop a.passwordAt := by
  rw [stringField, stringField]
  by_cases hPassword : 0 ∈ msg.drop a.passwordAt
  · have hSsid : 0 ∈ msg.drop a.ssidAt := mem_drop_of_le (Nat.le_add_right _ _) hPassword
    rw [if_pos hSsid, if_pos hPassword]
    exact iff_of_true rfl hPassword
  · rw [if_neg hPassword]
    refine iff_of_false ?_ hPassword
    split <;> exact Bool.false_ne_true

theorem addresses_isSome (a : Abi) (msg : List UInt8)
    (f : List UInt8 → List UInt8 → Int × Option EngineMsg) :
    ((field msg a.ipv4AddrAt a.word).bind fun ipv4 =>
      (field msg a.ipv6AddrAt 16).map (f ipv4)).isSome = true ↔ a.ssidAt ≤ msg.length := by
  have hNext : a.ipv4AddrAt + a.word = a.ipv6AddrAt := rfl
  have hEnd : a.ipv6AddrAt + 16 = a.ssidAt := rfl
  by_cases hLength : a.ssidAt ≤ msg.length
  · rw [field_some (by omega), Option.bind_some, field_some (by omega)]
    exact iff_of_true rfl hLength
  · refine iff_of_false ?_ hLength
    rw [field_none a.ipv6AddrAt 16 (by omega)]
    cases field msg a.ipv4AddrAt a.word <;> exact Bool.false_ne_true

theorem ifHandler_isSome (a : Abi) (msg : List UInt8) (isReq : Bool) :
    (ifHandler a msg isReq).isSome = true ↔ HasRequest a msg := by
  have hType : a.typeAt + 4 = a.senderIdAt := rfl
  have hSender : a.senderIdAt + 4 = a.ipv4AddrAt := rfl
  rw [ifHandler, HasRequest]
  by_cases hTypeIn : a.senderIdAt ≤ msg.length
  · rw [field_some (by omega), Option.bind_some, ← typeOf, and_iff_right hTypeIn]
    cases typeOf a msg with
    | none => exact iff_of_true rfl fun h => absurd rfl h
    | some type =>
      by_cases hSenderIn : a.ipv4AddrAt ≤ msg.length
      · dsimp only
        rw [field_some (by omega), Option.bind_some, ← senderOf, and_iff_right hSenderIn]
        cases senderOf a msg with
        | none => simp
        | some sender =>
          cases sender with
          | gpsoneDaemon => simpa using addresses_isSome a msg _
          | quipc | msapm | msapu => simpa using strings_isSome a msg _
      · dsimp only
        rw [field_none a.senderIdAt 4 (by omega)]
        refine iff_of_false Bool.false_ne_true fun h => hSenderIn (h ?_).1
        exact Option.some_ne_none type
  · rw [field_none a.typeAt 4 (by omega)]
    exact iff_of_false Bool.false_ne_true fun h => hTypeIn h.1

theorem dispatch_isSome (a : Abi) (handle : Bool) (msg : List UInt8) :
    (dispatch a handle msg).isSome = true ↔ Complete a handle msg := by
  rw [dispatch, Complete]
  cases msg[a.ctrlTypeAt]? with
  | none => simp
  | some ctrlType =>
    have hDiffer : gpsoneLocApiIfRelease ≠ gpsoneLocApiIfRequest := by decide
    simp only [Option.bind_some, Option.some.injEq, exists_eq_left']
    by_cases hRequest : ctrlType = gpsoneLocApiIfRequest
    · rw [if_pos hRequest, Option.isSome_map, ifRequestHandler]
      cases handle with
      | false => simp [hRequest, hDiffer.symm]
      | true => simp [hRequest, ifHandler_isSome]
    · rw [if_neg hRequest]
      by_cases hRelease : ctrlType = gpsoneLocApiIfRelease
      · rw [if_pos hRelease, Option.isSome_map, ifReleaseHandler, ifHandler_isSome]
        simp [hRelease]
      · simp [hRequest, hRelease]

/-! ## The server -/

theorem server_iff (rcv : Receiver) (handle : Bool) (limit₁ limit₂ : Option Nat) (pipe : List UInt8)
    (hNotShort : NotShort rcv limit₁ pipe) :
    (locApiServerProc rcv handle limit₁ limit₂ pipe).isSome = true ↔
      (Whole rcv limit₁ limit₂ pipe → Complete rcv.abi handle (pipe.take (announced rcv pipe))) := by
  rw [locApiServerProc]
  by_cases hWhole : Whole rcv limit₁ limit₂ pipe
  · have hLow := hNotShort hWhole.size
    have hPos := word_pos rcv.abi
    rw [msgrcv_whole hWhole hLow]
    dsimp only
    rw [if_neg (by omega), Option.isSome_map, dispatch_isSome]
    exact (imp_iff_right hWhole).symm
  · rw [msgrcv_ret_of_not_whole hNotShort hWhole]
    exact iff_of_true rfl fun h => absurd h hWhole

/-! ## A run of messages -/

/-- A message with a size that the receiver takes. -/
structure SentMsg (rcv : Receiver) where
  bytes : List UInt8
  word_le : rcv.abi.word ≤ bytes.length
  fits : bytes.length ≤ rcv.msgbufsz

/-- A message and what the two reads of its receipt give at most. -/
structure Receipt (rcv : Receiver) where
  msg : SentMsg rcv
  limit₁ : Option Nat
  limit₂ : Option Nat

/-- Neither of the reads is short. -/
def Receipt.Full (r : Receipt rcv) : Prop :=
  (∃ k, r.limit₁ = some k ∧ rcv.abi.word ≤ k) ∧
    ∃ k, r.limit₂ = some k ∧ r.msg.bytes.length - rcv.abi.word ≤ k

theorem length_withSize (m : SentMsg rcv) : (withSize rcv.abi m.bytes).length = m.bytes.length := by
  have hLow := m.word_le
  rw [withSize, List.length_append, length_toBytes, List.length_drop]
  omega

theorem announced_withSize (m : SentMsg rcv) (rest : List UInt8) :
    announced rcv (withSize rcv.abi m.bytes ++ rest) = m.bytes.length := by
  have hSmall := rcv.small
  have hFits := m.fits
  have hSize := le_size_t rcv.abi
  rw [announced, withSize, List.append_assoc, List.take_left' (length_toBytes _ _),
    ofBytes_toBytes (by omega)]

theorem gives_iff (h : n ≤ pipe.length) : Gives limit n pipe ↔ ∃ k, limit = some k ∧ n ≤ k :=
  and_iff_left h

theorem whole_iff_full (r : Receipt rcv) (rest : List UInt8) :
    Whole rcv r.limit₁ r.limit₂ (withSize rcv.abi r.msg.bytes ++ rest) ↔ r.Full := by
  have hLow := r.msg.word_le
  have hLength := length_withSize r.msg
  have hAnnounced := announced_withSize r.msg rest
  have hSize : rcv.abi.word ≤ (withSize rcv.abi r.msg.bytes ++ rest).length := by
    rw [List.length_append]
    omega
  have hBody : r.msg.bytes.length - rcv.abi.word ≤
      ((withSize rcv.abi r.msg.bytes ++ rest).drop rcv.abi.word).length := by
    rw [List.length_drop, List.length_append]
    omega
  constructor
  · rintro ⟨hFirst, -, hSecond⟩
    rw [hAnnounced] at hSecond
    exact ⟨(gives_iff hSize).mp hFirst, (gives_iff hBody).mp hSecond⟩
  · rintro ⟨hFirst, hSecond⟩
    refine ⟨(gives_iff hSize).mpr hFirst, ?_, ?_⟩
    · rw [hAnnounced]
      exact r.msg.fits
    · rw [hAnnounced]
      exact (gives_iff hBody).mpr hSecond

theorem msgrcv_sent {r : Receipt rcv} (h : r.Full) (rest : List UInt8) :
    msgrcv rcv r.limit₁ r.limit₂ (withSize rcv.abi r.msg.bytes ++ rest) =
      ⟨[(0, rcv.abi.word), (rcv.abi.word, r.msg.bytes.length - rcv.abi.word)], r.msg.bytes.length,
        withSize rcv.abi r.msg.bytes, rest⟩ := by
  have hWhole := (whole_iff_full r rest).mpr h
  have hAnnounced := announced_withSize r.msg rest
  rw [msgrcv_whole hWhole (by rw [hAnnounced]; exact r.msg.word_le), hAnnounced,
    ← length_withSize r.msg, List.take_left, List.drop_left]

theorem sendAll_eq (a : Abi) (msgs : List (List UInt8)) (pipe : List UInt8)
    (h : ∀ m ∈ msgs, a.word ≤ m.length) :
    sendAll a msgs pipe = pipe ++ msgs.flatMap (withSize a) := by
  induction msgs generalizing pipe with
  | nil => rw [sendAll, List.flatMap_nil, List.append_nil]
  | cons m msgs ih =>
    have hLow := h m List.mem_cons_self
    have hLength : (withSize a m).length = m.length := by
      rw [withSize, List.length_append, length_toBytes, List.length_drop]
      omega
    rw [sendAll, ih _ fun m' hm' => h m' (List.mem_cons_of_mem m hm'), List.flatMap_cons, msgsnd,
      Nat.min_self]
    dsimp only
    rw [List.take_of_length_le (Nat.le_of_eq hLength), List.append_assoc]

/-- What was sent, as the receiver is to report it. -/
def Receipt.expected (r : Receipt rcv) : Int × List UInt8 :=
  (r.msg.bytes.length, withSize rcv.abi r.msg.bytes)

/-- The messages are received as they were sent, one with each call. -/
def ReceivedAsSent (rcv : Receiver) (rs : List (Receipt rcv)) : Prop :=
  (receiveAll rcv (rs.map fun r => (r.limit₁, r.limit₂))
      (sendAll rcv.abi (rs.map fun r => r.msg.bytes) [])).map (fun m => (m.ret, m.stored)) =
    rs.map Receipt.expected

theorem receivedAsSent_iff (rs : List (Receipt rcv)) :
    ReceivedAsSent rcv rs ↔ ∀ r ∈ rs, r.Full := by
  have hLow : ∀ m ∈ rs.map fun r => r.msg.bytes, rcv.abi.word ≤ m.length := by
    intro m hm
    obtain ⟨r, -, rfl⟩ := List.mem_map.mp hm
    exact r.msg.word_le
  rw [ReceivedAsSent, sendAll_eq _ _ _ hLow, List.nil_append, List.flatMap_map]
  clear hLow
  induction rs with
  | nil => simp [receiveAll]
  | cons r rs ih =>
    rw [List.forall_mem_cons, List.map_cons, List.map_cons, List.flatMap_cons, receiveAll, List.map_cons,
      List.cons.injEq]
    dsimp only
    by_cases hFull : r.Full
    · rw [msgrcv_sent hFull]
      exact and_congr (iff_of_true rfl hFull) ih
    · refine iff_of_false ?_ fun h => hFull h.1
      rintro ⟨hFirst, -⟩
      have hNotShort : NotShort rcv r.limit₁
          (withSize rcv.abi r.msg.bytes ++ rs.flatMap fun r => withSize rcv.abi r.msg.bytes) := by
        intro _
        rw [announced_withSize]
        exact r.msg.word_le
      have hRet := congrArg Prod.fst hFirst
      dsimp only at hRet
      rw [msgrcv_ret_of_not_whole hNotShort (hFull ∘ (whole_iff_full r _).mp), Receipt.expected] at hRet
      omega

/-- A receipt is safe exactly if its size is not short, the server on top of it exactly if a message
that is received whole also has the fields that it asks for, and messages arrive as they were sent
exactly if no read is short. -/
theorem daemon_framing (rcv : Receiver) (handle : Bool) (limit₁ limit₂ : Option Nat)
    (pipe : List UInt8)
    (rs : List (Receipt rcv)) :
    (Framed rcv (msgrcv rcv limit₁ limit₂ pipe) ↔ NotShort rcv limit₁ pipe) ∧
      (Framed rcv (msgrcv rcv limit₁ limit₂ pipe) ∧
          (locApiServerProc rcv handle limit₁ limit₂ pipe).isSome = true ↔
        NotShort rcv limit₁ pipe ∧ (Whole rcv limit₁ limit₂ pipe →
          Complete rcv.abi handle (pipe.take (announced rcv pipe)))) ∧
      (ReceivedAsSent rcv rs ↔ ∀ r ∈ rs, r.Full) := by
  refine ⟨framed_iff rcv limit₁ limit₂ pipe, ?_, receivedAsSent_iff rs⟩
  rw [framed_iff]
  exact and_congr_right fun hNotShort => server_iff rcv handle limit₁ limit₂ pipe hNotShort

/-- A size of 4 asks the server to store nearly all of the address space behind its buffer. -/
theorem msgrcv_wraps :
    (msgrcv (serverReceiver .lp64) (some 8) none [4, 0, 0, 0, 0, 0, 0, 0]).asked =
        [(0, 8), (8, 2 ^ 64 - 4)] ∧
      ¬ Framed (serverReceiver .lp64)
        (msgrcv (serverReceiver .lp64) (some 8) none [4, 0, 0, 0, 0, 0, 0, 0]) := by
  have hAsked : (msgrcv (serverReceiver .lp64) (some 8) none [4, 0, 0, 0, 0, 0, 0, 0]).asked =
      [(0, 8), (8, 2 ^ 64 - 4)] := by decide +kernel
  refine ⟨hAsked, fun hFramed => ?_⟩
  have hIn := hFramed.inBuffer 8 (2 ^ 64 - 4) (by rw [hAsked]; decide)
  exact absurd hIn (by decide)

end KiwiDevice.Gps.Daemon
