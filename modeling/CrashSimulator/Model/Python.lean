import Mathlib.Data.List.Basic
import Mathlib.Data.Nat.Digits

/-!
# The Python 2 builtins `rreplay.py` computes with

`rreplay.py` is Python 2, and its strings are byte strings: here the lists of their
characters. The builtins it applies to them are modelled with the results and the
exceptions CPython 2.7 gives: `str.split(' ')` is `List.splitOn ' '`, and below are
`str.strip()`, `int()` and `str()` on integers, list subscripts, `list.pop()` and the
UTF-8 check `json.dump` makes on a `str`. A builtin that can raise returns an
`Except PyError`.

The facts proved here that later files use are that `int()` reads back what `str()` writes
(`pyInt_intStr`), so that decimal numerals name integers one to one, and that ASCII text is
UTF-8 (`utf8Valid_of_ascii`).
-/

set_option autoImplicit false

namespace CrashSimulator

/-- A Python 2 `str`, as the list of its characters. -/
abbrev PyStr := List Char

/-- How a computation of the program stops without returning: the exceptions it raises or
lets through, and `hang`. -/
inductive PyError where
  | indexError
  | typeError
  | valueError
  | ioError
  | unboundLocalError
  | unicodeDecodeError
  | parsingError
  | noSectionError
  | noOptionError
  | interpolationSyntaxError
  | interpolationMissingOptionError
  | interpolationDepthError
  | keyboardInterrupt
  | systemExit (code : Int)
  /-- Not an exception: a loop that never exits, such as the liveness poll of
  `process_messages` on a pid that is not alive. Nothing after it runs. -/
  | hang
  deriving DecidableEq, Repr

/-- `c.isspace()` for a byte: the space and the controls `\t \n \v \f \r` (9 to 13). -/
def isSpace (c : Char) : Bool := c = ' ' || (9 ≤ c.toNat && c.toNat ≤ 13)

/-- `s.strip()`: `s` without its leading and trailing whitespace. -/
def strip (s : PyStr) : PyStr := ((s.dropWhile isSpace).reverse.dropWhile isSpace).reverse

/-! ## Subscripts and `pop` -/

/-- A list subscript as the program evaluates it: an `int`, or a `str`. -/
inductive Subscript where
  | int (i : Nat)
  | str (s : PyStr)

/-- `xs[k]`: an `int` subscript past the end raises `IndexError`; a `str` subscript raises
`TypeError` (list indices must be integers). -/
def getItem {α : Type} (xs : List α) : Subscript → Except PyError α
  | .int i => match xs[i]? with
    | some a => .ok a
    | none => .error .indexError
  | .str _ => .error .typeError

/-- `xs.pop()`: the last element and the list without it; `IndexError` on an empty list. -/
def pop {α : Type} (xs : List α) : Except PyError (α × List α) :=
  match xs.getLast? with
  | some a => .ok (a, xs.dropLast)
  | none => .error .indexError

/-- INTERNAL: how a `do` block in `Except` succeeds: each step succeeds in turn. -/
theorem bind_eq_ok {ε α β : Type} {x : Except ε α} {f : α → Except ε β} {b : β} :
    x >>= f = .ok b ↔ ∃ a, x = .ok a ∧ f a = .ok b := by
  cases x <;> simp [bind, Except.bind]

/-- INTERNAL: the last step of a `do` block that ends in `pure`. -/
theorem map_eq_ok {ε α β : Type} {x : Except ε α} {f : α → β} {b : β} :
    f <$> x = .ok b ↔ ∃ a, x = .ok a ∧ f a = b := by
  cases x <;> simp [Functor.map, Except.map]

/-- INTERNAL: `pure` in `Except` succeeds with its argument. -/
theorem pure_eq_ok {ε α : Type} {a b : α} : (pure a : Except ε α) = .ok b ↔ a = b := by
  simp [pure, Except.pure]

/-- INTERNAL: a popped element was in the list. -/
theorem mem_of_pop_eq_ok {α : Type} {xs : List α} {a : α} {rest : List α}
    (h : pop xs = .ok (a, rest)) : a ∈ xs := by
  unfold pop at h
  split at h <;> cases h
  exact List.mem_of_getLast?_eq_some ‹_›

/-- INTERNAL: `pop` raises only on an empty list. -/
theorem pop_eq_error {α : Type} {xs : List α} {e : PyError} (h : pop xs = .error e) :
    xs = [] := by
  unfold pop at h
  split at h <;> cases h
  exact List.getLast?_eq_none_iff.mp ‹_›

@[simp] theorem getItem_str {α : Type} (xs : List α) (s : PyStr) :
    getItem xs (.str s) = .error .typeError := rfl

/-! ## UTF-8

`json.dump` writes a `str` value only after decoding it as UTF-8 (`s.decode('utf-8')`), and
raises `UnicodeDecodeError` where the decoder does. The decoder is a machine over the bytes of
the string, here the `toNat` of its characters. -/

/-- Where CPython 2.7's UTF-8 decoder stands between bytes: between characters, owing one to
three continuation bytes (`80`-`BF`), or owing them after a lead byte `E0`, `F0` or `F4`,
which narrows the range of the next one. -/
inductive Utf8State where
  | start
  | tail1
  | tail2
  | tail3
  | afterE0
  | afterF0
  | afterF4
  deriving DecidableEq, Repr

/-- The state after one byte, or `none` where the decoder raises. Unlike RFC 3629, CPython
2.7 accepts the encoded surrogates `ED A0`-`BF`, so `ED` is a lead byte like `E1`-`EF`. -/
def utf8Step : Utf8State → Nat → Option Utf8State
  | .start, b =>
    if b ≤ 0x7F then some .start
    else if 0xC2 ≤ b ∧ b ≤ 0xDF then some .tail1
    else if b = 0xE0 then some .afterE0
    else if 0xE1 ≤ b ∧ b ≤ 0xEF then some .tail2
    else if b = 0xF0 then some .afterF0
    else if 0xF1 ≤ b ∧ b ≤ 0xF3 then some .tail3
    else if b = 0xF4 then some .afterF4
    else none
  | .tail1, b => if 0x80 ≤ b ∧ b ≤ 0xBF then some .start else none
  | .tail2, b => if 0x80 ≤ b ∧ b ≤ 0xBF then some .tail1 else none
  | .tail3, b => if 0x80 ≤ b ∧ b ≤ 0xBF then some .tail2 else none
  | .afterE0, b => if 0xA0 ≤ b ∧ b ≤ 0xBF then some .tail1 else none
  | .afterF0, b => if 0x90 ≤ b ∧ b ≤ 0xBF then some .tail2 else none
  | .afterF4, b => if 0x80 ≤ b ∧ b ≤ 0x8F then some .tail2 else none

/-- The state after every byte of a string, or `none` once one is refused. -/
def utf8Run : Utf8State → PyStr → Option Utf8State
  | q, [] => some q
  | q, c :: s =>
    match utf8Step q c.toNat with
    | some q' => utf8Run q' s
    | none => none

/-- `s.decode('utf-8')` succeeds: every byte is accepted and the string ends between
characters (a truncated last character raises too). -/
def utf8Valid (s : PyStr) : Bool := utf8Run .start s = some .start

/-- ASCII text is UTF-8. -/
theorem utf8Valid_of_ascii {s : PyStr} (h : ∀ c ∈ s, c.toNat ≤ 0x7F) : utf8Valid s = true := by
  suffices utf8Run .start s = some .start by simp [utf8Valid, this]
  induction s with
  | nil => rfl
  | cons c s ih =>
    simp only [utf8Run, utf8Step, if_pos (h c (List.mem_cons_self c s))]
    exact ih fun c hc => h c (List.mem_cons_of_mem _ hc)

/-! ## `int()` and `str()` -/

/-- The value of a character `isdigit` accepts. -/
def digitValue (c : Char) : Nat := c.toNat - 48

/-- The character of a decimal digit. -/
def digitChar (d : Nat) : Char := Char.ofNat (48 + d)

/-- The value of a decimal numeral, most significant digit first. -/
def decimalValue (ds : PyStr) : Nat := Nat.ofDigits 10 (ds.reverse.map digitValue)

/-- The sign `PyOS_strtol` reads: whether a `-` stands first, and the rest. -/
def signSplit : PyStr → Bool × PyStr
  | '-' :: t => (true, t)
  | '+' :: t => (false, t)
  | t => (false, t)

/-- `int(s)` for a `str` `s`: optional whitespace, an optional sign, optional whitespace
(CPython 2's `PyOS_strtoul` skips it after the sign), one or more digits and optional
whitespace. Anything else raises `ValueError`, here `none`. -/
def pyInt (s : PyStr) : Option Int :=
  let signed := signSplit (s.dropWhile isSpace)
  let body := signed.2.dropWhile isSpace
  let ds := body.takeWhile Char.isDigit
  if ds ≠ [] ∧ (body.dropWhile Char.isDigit).all isSpace = true then
    some (if signed.1 then -(decimalValue ds : Int) else decimalValue ds)
  else none

/-- `str(n)` for a natural number: its decimal digits, most significant first. -/
def natStr (n : Nat) : PyStr :=
  if n = 0 then ['0'] else ((Nat.digits 10 n).map digitChar).reverse

/-- `str(n)` for an `int`: a minus sign before the digits of a negative number. -/
def intStr (n : Int) : PyStr :=
  if n < 0 then '-' :: natStr n.natAbs else natStr n.natAbs

/-- INTERNAL: what the ten digit characters are. -/
theorem digitChar_spec : ∀ d : Fin 10, (digitChar d).isDigit = true ∧
    digitValue (digitChar d) = d ∧ isSpace (digitChar d) = false ∧
    digitChar d ≠ '-' ∧ digitChar d ≠ '+' := by
  decide

/-- INTERNAL: `str(n)` is a nonempty run of digits. -/
theorem natStr_spec (n : Nat) : natStr n ≠ [] ∧ ∀ c ∈ natStr n,
    c.isDigit = true ∧ isSpace c = false ∧ c ≠ '-' ∧ c ≠ '+' := by
  unfold natStr
  split
  · exact ⟨by simp, by simp only [List.mem_singleton]; rintro c rfl; decide⟩
  · refine ⟨by simpa [Nat.digits_eq_nil_iff_eq_zero], ?_⟩
    simp only [List.mem_reverse, List.mem_map]
    rintro c ⟨d, hd, rfl⟩
    obtain ⟨h1, -, h3, h4, h5⟩ := digitChar_spec ⟨d, Nat.digits_lt_base (by norm_num) hd⟩
    exact ⟨h1, h3, h4, h5⟩

/-- INTERNAL: the digits of `str(n)` have the value `n`. -/
theorem decimalValue_natStr (n : Nat) : decimalValue (natStr n) = n := by
  unfold natStr decimalValue
  split
  · subst n; rfl
  · have hid : (Nat.digits 10 n).map (digitValue ∘ digitChar) = Nat.digits 10 n := by
      conv_rhs => rw [← List.map_id (Nat.digits 10 n)]
      exact List.map_congr_left fun d hd =>
        (digitChar_spec ⟨d, Nat.digits_lt_base (by norm_num) hd⟩).2.1
    rw [List.reverse_reverse, List.map_map, hid, Nat.ofDigits_digits]

/-- INTERNAL: reading an unsigned numeral. -/
theorem pyInt_natStr_body (n : Nat) :
    ((natStr n).dropWhile isSpace = natStr n) ∧ signSplit (natStr n) = (false, natStr n) ∧
    (natStr n).takeWhile Char.isDigit = natStr n ∧ (natStr n).dropWhile Char.isDigit = [] := by
  obtain ⟨hne, hc⟩ := natStr_spec n
  obtain ⟨c, t, ht⟩ := List.exists_cons_of_ne_nil hne
  refine ⟨?_, ?_, List.takeWhile_eq_self_iff.mpr fun c h => (hc c h).1,
    List.dropWhile_eq_nil_iff.mpr fun c h => (hc c h).1⟩
  · rw [ht, List.dropWhile_cons_of_neg]
    simp [(hc c (ht ▸ List.mem_cons_self c t)).2.1]
  · obtain ⟨-, -, h1, h2⟩ := hc c (ht ▸ List.mem_cons_self c t)
    rw [ht]
    unfold signSplit
    split <;> simp_all

/-- `int()` reads back every integer `str()` writes. -/
theorem pyInt_intStr (n : Int) : pyInt (intStr n) = some n := by
  obtain ⟨hsp, hsg, htk, hdr⟩ := pyInt_natStr_body n.natAbs
  have hne := (natStr_spec n.natAbs).1
  by_cases hn : n < 0
  · simp [pyInt, intStr, hn, signSplit, isSpace, hsp, htk, hdr, hne, decimalValue_natStr,
      abs_of_neg hn]
  · simp [pyInt, intStr, hn, hsp, hsg, htk, hdr, hne, decimalValue_natStr]
    omega

/-- Decimal numerals name integers one to one. -/
theorem intStr_injective : Function.Injective intStr := fun a b h => by
  simpa [pyInt_intStr] using congrArg pyInt h

end CrashSimulator
