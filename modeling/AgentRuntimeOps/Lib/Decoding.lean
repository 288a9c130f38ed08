import AgentRuntimeOps.Lib.Text

/-!
# Decoding with an error handler

`bytes.decode("utf-8", errors=…)` hands what it cannot decode to a handler: `replace` writes one
U+FFFD, `surrogateescape` keeps each byte as a lone surrogate.
-/

namespace AgentRuntimeOps.Lib

namespace Text

/-- Whether `c` may follow the first byte `b` of a character of three or four bytes. -/
def mayFollow (b c : UInt8) : Bool :=
  (b == 0xe0 && 0xa0 ≤ c && c ≤ 0xbf)
    || (0xe1 ≤ b && b ≤ 0xef && b != 0xed && 0x80 ≤ c && c ≤ 0xbf)
    || (b == 0xed && 0x80 ≤ c && c ≤ 0x9f)
    || (b == 0xf0 && 0x90 ≤ c && c ≤ 0xbf)
    || (0xf1 ≤ b && b ≤ 0xf3 && 0x80 ≤ c && c ≤ 0xbf)
    || (b == 0xf4 && 0x80 ≤ c && c ≤ 0x8f)

/-- How many bytes that start no character are rejected together: the start of one, cut off. -/
def rejectedLength : List UInt8 → Nat
  | b :: c :: d :: _ =>
      if mayFollow b c then if 0xf0 ≤ b && 0x80 ≤ d && d ≤ 0xbf then 3 else 2 else 1
  | [b, c] => if mayFollow b c then 2 else 1
  | _ => 1

/-- The characters of at most `fuel` steps of the decoder. -/
def decodeSteps (handler : List UInt8 → Text) : Nat → List UInt8 → Text
  | 0, _ => []
  | _, [] => []
  | fuel + 1, raw =>
      match raw.toByteArray.utf8DecodeChar? 0 with
      | some c => c.toNat :: decodeSteps handler fuel (raw.drop c.utf8Size)
      | none =>
          handler (raw.take (rejectedLength raw)) ++
            decodeSteps handler fuel (raw.drop (rejectedLength raw))

/-- `raw.decode("utf-8", errors=handler)` -/
def decodeWith (handler : List UInt8 → Text) (raw : List UInt8) : Text :=
  decodeSteps handler raw.length raw

/-- `errors="replace"` -/
def replaced (_ : List UInt8) : Text := [0xfffd]

/-- `errors="surrogateescape"` -/
def surrogateEscaped (raw : List UInt8) : Text := raw.map fun b => 0xdc00 + b.toNat

/-- `os.fsdecode(raw)` -/
def fsdecode (raw : List UInt8) : Text := decodeWith surrogateEscaped raw

variable (handler : List UInt8 → Text)

lemma decodeSteps_utf8 {chars : List Char} {fuel : Nat} (h : (utf8 chars).length ≤ fuel) :
    decodeSteps handler fuel (utf8 chars) = ofChars chars := by
  induction chars generalizing fuel with
  | nil => cases fuel <;> rfl
  | cons c chars ih =>
      have happend : utf8 (c :: chars) = String.utf8EncodeChar c ++ utf8 chars :=
        List.flatMap_cons
      have hsize : (String.utf8EncodeChar c).length = c.utf8Size := String.length_utf8EncodeChar c
      have hpos : 0 < c.utf8Size := Char.utf8Size_pos c
      rw [happend, List.length_append, hsize] at h
      obtain ⟨fuel, rfl⟩ : ∃ n, fuel = n + 1 := ⟨fuel - 1, by omega⟩
      have hdecode : (utf8 (c :: chars)).toByteArray.utf8DecodeChar? 0 = some c :=
        List.utf8DecodeChar?_utf8Encode_cons
      obtain ⟨b, raw, hraw⟩ : ∃ b raw, utf8 (c :: chars) = b :: raw := by
        refine List.exists_cons_of_ne_nil fun hnil => ?_
        have hlength := congrArg List.length (happend.symm.trans hnil)
        rw [List.length_append, hsize, List.length_nil] at hlength
        omega
      have hrest : (utf8 (c :: chars)).drop c.utf8Size = utf8 chars := by
        rw [happend, ← hsize, List.drop_left]
      have hstep : decodeSteps handler (fuel + 1) (utf8 (c :: chars)) =
          c.toNat :: decodeSteps handler fuel ((utf8 (c :: chars)).drop c.utf8Size) := by
        rw [hraw] at hdecode ⊢
        rw [decodeSteps]
        · rw [hdecode]
        · exact List.cons_ne_nil b raw
      rw [hstep, hrest, ih (by omega)]
      rfl

/-- What is valid UTF-8 is decoded whatever the handler. -/
theorem decodeWith_utf8 (chars : List Char) : decodeWith handler (utf8 chars) = ofChars chars :=
  decodeSteps_utf8 handler le_rfl

lemma decodeWith_of_encode {t : Text} {raw : List UInt8} (h : t.encode = some raw) :
    decodeWith handler raw = t := by
  obtain ⟨chars, hchars, rfl⟩ := Option.map_eq_some_iff.mp h
  rw [decodeWith_utf8, chars?_eq_some_iff.mp hchars]

example : decodeWith replaced [0x2f, 0xe2, 0x82, 0x2f, 0xff, 0xc3, 0xa9] =
    [0x2f, 0xfffd, 0x2f, 0xfffd, 0xe9] := by decide

end Text

end AgentRuntimeOps.Lib
