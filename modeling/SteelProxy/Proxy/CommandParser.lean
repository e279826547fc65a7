import SteelProxy.Library.Wire
import SteelProxy.Proxy.Forwarder

/-!
# The command parser

`parse_command_from_payload` against its grammar: a length that is not negative, then at least as
many bytes, of which the first ones encode the command. The length is cast to `usize` before the
buffer is allocated, so a negative one is no parse error but a panic; on every other payload the
parser accepts exactly the grammar (`parses_grammar_iff`).
-/

set_option autoImplicit false

namespace SteelProxy

open SteelProxy.Library

namespace PacketForwarder

/-! ## The grammar -/

/-- The payload starts with a length and the bytes of a command of this length. -/
def CommandPayload (payload : List UInt8) (command : String) : Prop :=
  ∃ len rest, VarInt.read payload = some (len, Wire.bytesOf command ++ rest) ∧ 0 ≤ len ∧
    (Wire.bytesOf command).length = len.toNatClampNeg

/-- The parser accepts exactly the grammar, and a chat command outside of it is forwarded. -/
structure ParsesGrammar (payload : List UInt8) : Prop where
  accepts : ∀ command, parseCommandFromPayload payload = some (.ok command) ↔
    CommandPayload payload command
  rejects : (∀ command, ¬ CommandPayload payload command) →
    ∃ error, parseCommandFromPayload payload = some (.error error)
  forwards : (∀ command, ¬ CommandPayload payload command) →
    ∀ ids config env (f : PacketForwarder) packet, packet.payload = payload →
      isChatCommand ids f.currentProtocol packet = true →
        f.handleClientPacket ids config env packet = f.forwardClientPacket ids env packet

/-- The length before the payload, if there is one, is not negative. -/
def LengthNonNegative (payload : List UInt8) : Prop :=
  ∀ len rest, VarInt.read payload = some (len, rest) → 0 ≤ len

variable {payload rest : List UInt8} {len : Int32}

/-! ## The length as `usize` -/

theorem lenAsUsize_of_nonneg (h : 0 ≤ len) : (lenAsUsize len).toNat = len.toNatClampNeg := by
  have hlen : 0 ≤ len.toInt64 := by
    rw [Int64.le_iff_toInt_le, Int32.toInt_toInt64]
    exact Int32.le_iff_toInt_le.1 h
  rw [lenAsUsize, Int64.toNat_toUInt64_of_le hlen, Int32.toNatClampNeg_toInt64]

/-- A negative length exceeds the capacity of any vector. -/
theorem le_lenAsUsize_of_neg (h : ¬ 0 ≤ len) : 2 ^ 63 ≤ (lenAsUsize len).toNat := by
  by_contra hlt
  -- read as a signed number, a small 64-bit number is not negative
  have hsmall : 2 * len.toInt64.toBitVec.toNat < 2 ^ 64 := by
    have hbits : (lenAsUsize len).toNat = len.toInt64.toBitVec.toNat := rfl
    omega
  have hsigned : len.toInt64.toInt = len.toInt64.toBitVec.toNat :=
    BitVec.toInt_eq_toNat_of_lt hsmall
  apply h
  rw [Int32.le_iff_toInt_le, ← len.toInt_toInt64, hsigned]
  exact Int.natCast_nonneg _

/-! ## The parser by its length -/

theorem parse_of_none (h : VarInt.read payload = none) :
    parseCommandFromPayload payload = some (.error "invalid VarInt") := by
  rw [parseCommandFromPayload, h]

theorem parse_of_neg (h : VarInt.read payload = some (len, rest)) (hneg : ¬ 0 ≤ len) :
    parseCommandFromPayload payload = none := by
  rw [parseCommandFromPayload, h]
  exact if_pos (le_lenAsUsize_of_neg hneg)

theorem parse_of_nonneg (h : VarInt.read payload = some (len, rest)) (hlen : 0 ≤ len) :
    parseCommandFromPayload payload =
      if rest.length < len.toNatClampNeg then
        some (.error "failed to fill whole buffer")
      else
        match Wire.decodeUtf8 (rest.take len.toNatClampNeg) with
        | none => some (.error "invalid utf-8 sequence")
        | some command => some (.ok command) := by
  have hfits : ¬ 2 ^ 63 ≤ len.toNatClampNeg := by
    have hlt := len.toNatClampNeg_lt
    omega
  simp only [parseCommandFromPayload, h, lenAsUsize_of_nonneg hlen, if_neg hfits]
  rfl

/-- The bytes of a command of the announced length are a prefix of the rest. -/
theorem commandPayload_iff (h : VarInt.read payload = some (len, rest)) (command : String) :
    CommandPayload payload command ↔
      0 ≤ len ∧ len.toNatClampNeg ≤ rest.length ∧
        rest.take len.toNatClampNeg = Wire.bytesOf command := by
  constructor
  · rintro ⟨len', tail, hread, hlen, hlength⟩
    rw [h] at hread
    obtain ⟨rfl, rfl⟩ := Prod.mk.inj (Option.some.inj hread)
    refine ⟨hlen, ?_, ?_⟩
    · rw [← hlength, List.length_append]
      exact Nat.le_add_right _ _
    · rw [← hlength, List.take_left']
      rfl
  · rintro ⟨hlen, hfill, hbytes⟩
    refine ⟨len, rest.drop len.toNatClampNeg, ?_, hlen, ?_⟩
    · rw [← hbytes, List.take_append_drop, h]
    · rw [← hbytes, List.length_take, Nat.min_eq_left hfill]

/-! ## The parser against its grammar -/

theorem parse_eq_ok_iff (hlength : LengthNonNegative payload) (command : String) :
    parseCommandFromPayload payload = some (.ok command) ↔ CommandPayload payload command := by
  cases hread : VarInt.read payload with
  | none =>
      rw [parse_of_none hread]
      constructor
      · intro h
        cases h
      · rintro ⟨len, rest, h, -⟩
        rw [hread] at h
        cases h
  | some p =>
      rcases p with ⟨len, rest⟩
      have hlen := hlength len rest hread
      rw [parse_of_nonneg hread hlen, commandPayload_iff hread]
      by_cases hshort : rest.length < len.toNatClampNeg
      · rw [if_pos hshort]
        constructor
        · intro h
          cases h
        · rintro ⟨-, hfill, -⟩
          omega
      · rw [if_neg hshort, ← Wire.decodeUtf8_eq_some_iff]
        cases Wire.decodeUtf8 (rest.take len.toNatClampNeg) with
        | none => simp
        | some command' => simp [hlen, Nat.le_of_not_lt hshort]

/-- The parser returns, with a command or an error. -/
theorem parse_returns (hlength : LengthNonNegative payload) :
    (∃ command, parseCommandFromPayload payload = some (.ok command)) ∨
      ∃ error, parseCommandFromPayload payload = some (.error error) := by
  cases hread : VarInt.read payload with
  | none => exact Or.inr ⟨_, parse_of_none hread⟩
  | some p =>
      rcases p with ⟨len, rest⟩
      rw [parse_of_nonneg hread (hlength len rest hread)]
      by_cases hshort : rest.length < len.toNatClampNeg
      · rw [if_pos hshort]
        exact Or.inr ⟨_, rfl⟩
      · rw [if_neg hshort]
        cases Wire.decodeUtf8 (rest.take len.toNatClampNeg) with
        | none => exact Or.inr ⟨_, rfl⟩
        | some command => exact Or.inl ⟨command, rfl⟩

theorem parse_rejects (hlength : LengthNonNegative payload)
    (hnone : ∀ command, ¬ CommandPayload payload command) :
    ∃ error, parseCommandFromPayload payload = some (.error error) := by
  rcases parse_returns hlength with ⟨command, hok⟩ | herror
  · exact absurd ((parse_eq_ok_iff hlength command).1 hok) (hnone command)
  · exact herror

theorem parsesGrammar_of_lengthNonNegative (h : LengthNonNegative payload) :
    ParsesGrammar payload where
  accepts := parse_eq_ok_iff h
  rejects := parse_rejects h
  forwards := by
    intro hnone ids config env f packet hpayload hchat
    obtain ⟨error, herror⟩ := parse_rejects h hnone
    rw [handleClientPacket, if_pos hchat, hpayload, herror]

theorem lengthNonNegative_of_parsesGrammar (h : ParsesGrammar payload) :
    LengthNonNegative payload := by
  intro len rest hread
  by_contra hneg
  -- a negative length is outside of the grammar, and the parser does not return on it
  have hnone : ∀ command, ¬ CommandPayload payload command := by
    intro command hcommand
    exact hneg ((commandPayload_iff hread command).1 hcommand).1
  obtain ⟨error, herror⟩ := h.rejects hnone
  rw [parse_of_neg hread hneg] at herror
  cases herror

/-- A command behind its length belongs to the grammar, whatever follows it. -/
theorem commandPayload_writeString {command : String}
    (h : (Wire.bytesOf command).length < 2 ^ 31) (rest : List UInt8) :
    CommandPayload (Wire.writeString command ++ rest) command := by
  refine ⟨Int32.ofNat (Wire.bytesOf command).length, rest, ?_, Wire.le_ofNat_of_lt h, ?_⟩
  · rw [Wire.writeString, List.append_assoc, VarInt.read_write]
  · exact (Int32.toNatClampNeg_ofNat_of_lt h).symm

theorem lengthNonNegative_writeString {command : String}
    (h : (Wire.bytesOf command).length < 2 ^ 31) (rest : List UInt8) :
    LengthNonNegative (Wire.writeString command ++ rest) := by
  intro len rest' hread
  rw [Wire.writeString, List.append_assoc, VarInt.read_write] at hread
  cases hread
  exact Wire.le_ofNat_of_lt h

/-- The parser accepts exactly its grammar, and leaves every other chat command to the backend, if
and only if the length before the payload is not negative. A command behind its length is
accepted, whatever follows it. -/
theorem parses_grammar_iff (payload : List UInt8) :
    (ParsesGrammar payload ↔ LengthNonNegative payload) ∧
      ∀ command rest, (Wire.bytesOf command).length < 2 ^ 31 →
        parseCommandFromPayload (Wire.writeString command ++ rest) = some (.ok command) := by
  refine ⟨⟨lengthNonNegative_of_parsesGrammar, parsesGrammar_of_lengthNonNegative⟩, ?_⟩
  intro command rest h
  exact (parse_eq_ok_iff (lengthNonNegative_writeString h rest) command).2
    (commandPayload_writeString h rest)

/-- The length -1: the parser neither accepts nor rejects the payload. -/
theorem negative_length_panics : ¬ ParsesGrammar [255, 255, 255, 255, 15] := by
  intro h
  have hlen := lengthNonNegative_of_parsesGrammar h (-1) [] (by decide)
  revert hlen
  decide

end PacketForwarder

end SteelProxy
