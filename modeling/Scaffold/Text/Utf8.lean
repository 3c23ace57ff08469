import Scaffold.Text

/-!
Bytes and texts. Decoding reads well-formed UTF-8 sequences as characters and every other byte as a
stray byte, so that encoding what was decoded gives the bytes back (`encode_decode`).
-/

namespace Scaffold

/-- A sequence of bytes, such as the content of a file or the name of a directory entry. -/
abbrev Bytes := List UInt8

/-- The bytes of one letter; a stray byte stands for itself. -/
def Letter.bytes : Letter → Bytes
  | .char c => String.utf8EncodeChar c
  | .stray byte => [byte]

namespace Text

/-- The bytes of a text, letter by letter. -/
def encode (t : Text) : Bytes := t.flatMap Letter.bytes

/-- The character whose UTF-8 sequence the bytes start with. -/
def leadingChar? (bytes : Bytes) : Option Char :=
  (bytes.take 4).toByteArray.utf8DecodeChar? 0

/-- Decodes the bytes after the first `skipped` ones. -/
def decodeAfter : (skipped : Nat) → Bytes → Text
  | _, [] => []
  | skipped + 1, _ :: rest => decodeAfter skipped rest
  | 0, byte :: rest =>
      match leadingChar? (byte :: rest) with
      | some c => .char c :: decodeAfter (c.utf8Size - 1) rest
      | none => .stray byte :: decodeAfter 0 rest

/-- The text of any bytes. -/
def decode (bytes : Bytes) : Text := decodeAfter 0 bytes

/-- The text of bytes that are well-formed UTF-8 throughout. -/
def decodeStrict? (bytes : Bytes) : Option Text :=
  let t := decode bytes
  if t.all (Letter.holds fun _ => true) then some t else none

@[simp] theorem encode_nil : encode [] = [] := rfl

@[simp] theorem encode_cons (c : Letter) (t : Text) : encode (c :: t) = c.bytes ++ encode t := rfl

@[simp] theorem encode_append (s t : Text) : encode (s ++ t) = encode s ++ encode t :=
  List.flatMap_append

theorem leadingChar?_eq_some {bytes : Bytes} {c : Char} (h : leadingChar? bytes = some c) :
    ∃ rest, bytes = String.utf8EncodeChar c ++ rest := by
  obtain ⟨rest, hrest⟩ := ByteArray.exists_of_utf8DecodeChar?_eq_some h
  refine ⟨rest.data.toList ++ bytes.drop 4, ?_⟩
  have htake : bytes.take 4 = String.utf8EncodeChar c ++ rest.data.toList := by
    have := congrArg (fun b : ByteArray => b.data.toList) hrest
    simpa using this
  calc bytes = bytes.take 4 ++ bytes.drop 4 := (List.take_append_drop 4 bytes).symm
    _ = String.utf8EncodeChar c ++ (rest.data.toList ++ bytes.drop 4) := by
        rw [htake, List.append_assoc]

theorem decodeAfter_eq_decode_drop (skipped : Nat) (bytes : Bytes) :
    decodeAfter skipped bytes = decode (bytes.drop skipped) := by
  induction bytes generalizing skipped with
  | nil => cases skipped <;> simp [decode, decodeAfter]
  | cons byte rest ih =>
      cases skipped with
      | zero => rfl
      | succ skipped => simpa [decodeAfter] using ih skipped

theorem encode_decode (bytes : Bytes) : encode (decode bytes) = bytes := by
  induction h : bytes.length using Nat.strongRecOn generalizing bytes with
  | _ length ih =>
      cases bytes with
      | nil => rfl
      | cons byte rest =>
          unfold decode decodeAfter
          cases hc : leadingChar? (byte :: rest) with
          | none =>
              have hrest := ih rest.length (by simp [← h]) rest rfl
              simpa [Letter.bytes, decode] using hrest
          | some c =>
              obtain ⟨tail, htail⟩ := leadingChar?_eq_some hc
              obtain ⟨k, hk⟩ : ∃ k, c.utf8Size = k + 1 :=
                ⟨c.utf8Size - 1, by have := c.utf8Size_pos; omega⟩
              have hlen : (String.utf8EncodeChar c).length = k + 1 := by
                rw [String.length_utf8EncodeChar, hk]
              have hdrop : rest.drop k = tail := by
                have := congrArg (List.drop (k + 1)) htail
                rwa [List.drop_succ_cons, ← hlen, List.drop_left] at this
              have hrest := ih tail.length (by rw [← h, htail]; simp [hlen]) tail rfl
              simp only [hk, Nat.add_sub_cancel, decodeAfter_eq_decode_drop, hdrop]
              rw [encode_cons, hrest, htail, Letter.bytes]

end Text

end Scaffold
