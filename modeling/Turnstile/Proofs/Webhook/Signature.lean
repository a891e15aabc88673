import Turnstile.Proofs.Webhook.Credentials
/-! Which texts are taken for signatures. Bytes are read from hexadecimal text alone, of either letter
case, but that a pair of digits may begin with a plus sign in the place of a zero. -/
namespace Turnstile
open Text.Hex

namespace Auth
variable {a : HmacAlgorithm} {secret body : List UInt8} {signature : String}

theorem notHexIff : verifySignature a secret body signature = .error .notHex ↔
    decode? (signatureText signature) = none := by
  unfold verifySignature
  split
  · rename_i refused
    exact iff_of_true rfl refused
  · rename_i given read
    rw [read]
    refine iff_of_false ?_ (Option.some_ne_none given)
    split <;> exact nofun

/-- A text is read as bytes exactly if it is hexadecimal, and then as the bytes that it spells, where
a plus sign that begins a pair counts as the digit zero. So what is written for bytes is read as
them, in small letters and in capitals, and a signature is malformed exactly if it is not such a
text. -/
theorem signaturesDecoded (text : String) (bytes : List UInt8) (a : HmacAlgorithm)
    (secret body : List UInt8) (signature : String) :
    (decode? text = some bytes ↔
      IsHex (unsigned text.toList) ∧ Spells (unsigned text.toList) bytes) ∧
    (Signless text.toList →
      (decode? text = some bytes ↔ IsHex text.toList ∧ Spells text.toList bytes)) ∧
    (bytes ≠ [] →
      decode? (encode bytes) = some bytes ∧ decode? ((encode bytes).map Char.toUpper) = some bytes) ∧
    (verifySignature a secret body signature = .error .notHex ↔
      ¬ IsHex (unsigned (signatureText signature).toList)) ∧
    (Signless (signatureText signature).toList →
      (verifySignature a secret body signature = .error .notHex ↔
        ¬ IsHex (signatureText signature).toList)) := by
  refine ⟨decodesIff, fun signless => ?_, fun any => ⟨?_, ?_⟩, notHexIff.trans decodesNone,
    fun signless => ?_⟩
  · rw [decodesIff, unsignedSame signless]
  · have small := spellsWritten bytes (f := id) (by decide)
    rw [List.map_id] at small
    exact decodesSpelt any small
  · have capitals := spellsWritten bytes (f := Char.toUpper) (by decide)
    rw [← String.toList_map] at capitals
    exact decodesSpelt any capitals
  · rw [notHexIff, decodesNone, unsignedSame signless]

theorem mixedCaseDecoded :
    Signless "0fF0".toList ∧ decode? "0fF0" = some [0x0f, 0xf0] ∧
    decode? ((encode [0x0f, 0xf0]).map Char.toUpper) = some [0x0f, 0xf0] ∧
    Signless (signatureText "sha256= f+ ").toList ∧
    verifySignature .sha256 [] [] "sha256= f+ " = .error .notHex := by
  obtain ⟨-, read, written, -, judged⟩ :=
    signaturesDecoded "0fF0" [0x0f, 0xf0] .sha256 [] [] "sha256= f+ "
  have plain : Signless "0fF0".toList := by decide
  have second : Signless (signatureText "sha256= f+ ").toList := by decide +kernel
  exact ⟨plain, (read plain).mpr (by decide +kernel), (written (by decide)).2, second,
    (judged second).mpr (by decide +kernel)⟩

/-- A plus sign is no digit, and the text is read all the same: the signature is one that does not
match, not one that is malformed. -/
theorem signedDecoded :
    decode? "+f" = some [0x0f] ∧ ¬ IsHex "+f".toList ∧
    verifySignature .sha1 (bytesOf "s3cret") (bytesOf "\x7b\x7d") "+f" = .error .mismatch := by
  have read : decode? (signatureText "+f") = some [0x0f] := by decide +kernel
  refine ⟨by decide +kernel, by decide +kernel, ?_⟩
  unfold verifySignature
  rw [read, hookCoded]
  rfl

end Auth
end Turnstile
