import Mathlib.Tactic.Common

/-!
# The text of a UUID

PostgreSQL's type `uuid`. It writes 32 lower-case hexadecimal digits with hyphens after the 8th, 12th,
16th and 20th; it reads them in either case, with a hyphen after any group of four digits or without,
and with braces around them.
-/

namespace PvpDuel.Uuid

structure UUID where
  bytes : List UInt8
  length_bytes : bytes.length = 16
deriving DecidableEq

/-! ### Digits -/

def hexDigit (n : Nat) : Char :=
  if n < 10 then Char.ofNat (48 + n) else Char.ofNat (87 + n)

def hexValue (c : Char) : Option Nat :=
  if '0' ≤ c ∧ c ≤ '9' then some (c.toNat - 48)
  else if 'a' ≤ c ∧ c ≤ 'f' then some (c.toNat - 87)
  else if 'A' ≤ c ∧ c ≤ 'F' then some (c.toNat - 55)
  else none

theorem hexDigit_spec : ∀ n < 16, hexValue (hexDigit n) = some n ∧ hexDigit n ≠ '-' ∧
    hexDigit n ≠ '\x7b' := by
  decide

/-! ### Text -/

/-- The bytes from number `i` on. -/
def writeBytes : Nat → List UInt8 → List Char
  | _, [] => []
  | i, byte :: bytes =>
      let rest := writeBytes (i + 1) bytes
      hexDigit (byte.toNat / 16) :: hexDigit (byte.toNat % 16) ::
        if i ∈ [3, 5, 7, 9] then '-' :: rest else rest

def UUID.text (id : UUID) : String := String.ofList (writeBytes 0 id.bytes)

/-- A hyphen after byte number `i` is skipped when it ends a group of four digits. -/
def skipHyphen (i : Nat) (text : List Char) : List Char :=
  match text with
  | '-' :: rest => if i % 2 = 1 ∧ i < 15 then rest else text
  | _ => text

/-- Read so many bytes from number `i` on. -/
def readBytes : Nat → Nat → List Char → Option (List UInt8 × List Char)
  | _, 0, text => some ([], text)
  | i, n + 1, high :: low :: text =>
      match hexValue high, hexValue low, readBytes (i + 1) n (skipHyphen i text) with
      | some high, some low, some (bytes, rest) =>
          some (UInt8.ofNat (16 * high + low) :: bytes, rest)
      | _, _, _ => none
  | _, _, _ => none

def parse (text : String) : Option UUID :=
  let braces := text.toList.head? = some '\x7b'
  match readBytes 0 16 (if braces then text.toList.tail else text.toList) with
  | some (bytes, rest) =>
      if rest = (if braces then ['\x7d'] else []) then
        if h : bytes.length = 16 then some ⟨bytes, h⟩ else none
      else none
  | none => none

/-! ### Round trip -/

theorem digits_lt (byte : UInt8) : byte.toNat / 16 < 16 ∧ byte.toNat % 16 < 16 := by
  have h := byte.toNat_lt
  omega

theorem head_writeBytes {i : Nat} {bytes : List UInt8} :
    (writeBytes i bytes).head? ≠ some '-' ∧ (writeBytes i bytes).head? ≠ some '\x7b' := by
  cases bytes with
  | nil => simp [writeBytes]
  | cons byte bytes =>
      obtain ⟨-, hhyphen, hbrace⟩ := hexDigit_spec _ (digits_lt byte).1
      simp only [writeBytes, List.head?_cons, ne_eq, Option.some.injEq]
      exact ⟨hhyphen, hbrace⟩

theorem skipHyphen_of_head {i : Nat} {text : List Char} (h : text.head? ≠ some '-') :
    skipHyphen i text = text := by
  unfold skipHyphen
  split
  · simp at h
  · rfl

/-- What follows byte number `i` is read alike with its hyphen and without. -/
theorem skipHyphen_writeBytes {i : Nat} {bytes : List UInt8} :
    skipHyphen i (if i ∈ [3, 5, 7, 9] then '-' :: writeBytes (i + 1) bytes
      else writeBytes (i + 1) bytes) = writeBytes (i + 1) bytes := by
  split
  · rename_i hi
    have hodd : i % 2 = 1 ∧ i < 15 := by
      simp only [List.mem_cons, List.not_mem_nil, or_false] at hi
      omega
    exact if_pos hodd
  · exact skipHyphen_of_head head_writeBytes.1

theorem readBytes_writeBytes (i : Nat) (bytes : List UInt8) :
    readBytes i bytes.length (writeBytes i bytes) = some (bytes, []) := by
  induction bytes generalizing i with
  | nil => rfl
  | cons byte bytes ih =>
      obtain ⟨hhigh, hlow⟩ := digits_lt byte
      rw [List.length_cons, writeBytes, readBytes, (hexDigit_spec _ hhigh).1,
        (hexDigit_spec _ hlow).1, skipHyphen_writeBytes, ih]
      have hbyte : UInt8.ofNat (16 * (byte.toNat / 16) + byte.toNat % 16) = byte := by
        rw [Nat.div_add_mod, UInt8.ofNat_toNat]
      dsimp only
      rw [hbyte]

theorem parse_text (id : UUID) : parse id.text = some id := by
  have hread := readBytes_writeBytes 0 id.bytes
  rw [id.length_bytes] at hread
  unfold parse UUID.text
  rw [String.toList_ofList]
  dsimp only
  rw [if_neg head_writeBytes.2, if_neg head_writeBytes.2, hread]
  simp only [if_true, dif_pos id.length_bytes]

theorem text_injective {a b : UUID} (h : a.text = b.text) : a = b := by
  have ha := parse_text a
  rw [h, parse_text] at ha
  exact (Option.some.inj ha).symm

theorem text_ne_empty (id : UUID) : id.text ≠ "" := by
  intro h
  have hparse := parse_text id
  rw [h] at hparse
  cases hparse

end PvpDuel.Uuid
