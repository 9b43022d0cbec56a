import Mathlib.Data.List.Basic

/-!
# The Python runtime the client relies on

The modelled functions raise and catch exceptions, parse integers and hexadecimal strings
from query parameters, split request paths and index lists. This module gives each of those
builtins a computable definition, so that every modelled function can be run on a concrete
input, and its exceptions explicit, so that which ones a `try` lets through is visible.

A call of modelled code ends in a `Result`: it returns, it raises a `PyExc`, or it is still
looping when its fuel is spent. Only the `while count:` loop of the HTTP handler needs fuel.

`int()` of a `str` first maps every Unicode whitespace character to a space and every Unicode
decimal digit to its ASCII digit, as CPython does, and then parses the ASCII literal; its
tables are those of CPython 3.12 (Unicode 15.0). `bytes.fromhex` and `unhexlify` read ASCII only.
-/

namespace BackendClient

/-- The exceptions the modelled code can raise. -/
inductive PyExc where
  /-- `d[k]` on a missing key. -/
  | keyError (key : String)
  /-- A malformed argument: `int("x")`, `binascii.unhexlify("0")`, … -/
  | valueError (msg : String)
  /-- `l[i]` past the end of a list. -/
  | indexError
  /-- `struct.unpack` on a buffer of the wrong size. -/
  | structError
  /-- `obj.name` where no class of `obj` defines `name`. -/
  | attributeError (name : String)
  deriving DecidableEq, Repr

/-- `str(e)`: a `KeyError` prints its key in quotes. -/
def PyExc.str : PyExc → String
  | .keyError key => ⟨Char.ofNat 39 :: key.data ++ [Char.ofNat 39]⟩
  | .valueError msg => msg
  | .indexError => "list index out of range"
  | .structError => "unpack requires a buffer of the right size"
  | .attributeError name => "object has no attribute " ++ ⟨Char.ofNat 39 :: name.data ++ [Char.ofNat 39]⟩

/-- How a call of modelled code ends. -/
inductive Result (α : Type) where
  | ok (a : α)
  | raise (e : PyExc)
  /-- The call is still in a loop when its fuel runs out. -/
  | outOfFuel
  deriving DecidableEq, Repr

namespace Result
variable {α β : Type}

instance : Monad Result where
  pure := ok
  bind x f := match x with
    | ok a => f a
    | raise e => raise e
    | outOfFuel => outOfFuel

instance : LawfulMonad Result :=
  LawfulMonad.mk' Result (fun x => by cases x <;> rfl) (fun _ _ => rfl)
    (fun x _ _ => by cases x <;> rfl)

@[simp] theorem pure_eq (a : α) : (pure a : Result α) = ok a := rfl
@[simp] theorem ok_bind (a : α) (f : α → Result β) : (ok a >>= f) = f a := rfl
@[simp] theorem raise_bind (e : PyExc) (f : α → Result β) : (raise e >>= f) = raise e := rfl
@[simp] theorem outOfFuel_bind (f : α → Result β) : (outOfFuel >>= f) = outOfFuel := rfl
theorem map_ok (f : α → β) (a : α) : (f <$> ok a : Result β) = ok (f a) := rfl
theorem map_raise (f : α → β) (e : PyExc) : (f <$> raise e : Result β) = raise e := rfl
theorem map_outOfFuel (f : α → β) : (f <$> outOfFuel : Result β) = outOfFuel := rfl

/-- Whether the call returned. -/
def isOk : Result α → Bool
  | ok _ => true
  | _ => false

/-- `try: x` / `except KeyError as error: handler(error)`. -/
def exceptKeyError (x : Result α) (handler : String → Result α) : Result α :=
  match x with
  | raise (.keyError key) => handler key
  | r => r

@[simp] theorem exceptKeyError_ok (a : α) (h : String → Result α) :
    exceptKeyError (ok a) h = ok a := rfl
@[simp] theorem exceptKeyError_keyError (k : String) (h : String → Result α) :
    exceptKeyError (raise (.keyError k)) h = h k := rfl
@[simp] theorem exceptKeyError_valueError (m : String) (h : String → Result α) :
    exceptKeyError (raise (.valueError m)) h = raise (.valueError m) := rfl
@[simp] theorem exceptKeyError_indexError (h : String → Result α) :
    exceptKeyError (raise .indexError) h = raise .indexError := rfl
@[simp] theorem exceptKeyError_outOfFuel (h : String → Result α) :
    exceptKeyError outOfFuel h = outOfFuel := rfl

/-- The value of an optional dictionary entry, or the `KeyError` for `key`. -/
def ofOption (key : String) : Option α → Result α
  | some a => ok a
  | none => raise (.keyError key)

@[simp] theorem ofOption_some (key : String) (a : α) : ofOption key (some a) = ok a := rfl
@[simp] theorem ofOption_none (key : String) : ofOption key (none : Option α) = raise (.keyError key) :=
  rfl

/-- A call returns only if each of its steps does. -/
theorem bind_eq_ok {x : Result α} {f : α → Result β} {b : β} :
    x >>= f = ok b ↔ ∃ a, x = ok a ∧ f a = ok b := by
  cases x <;> simp

/-- A call raises `e` only if one of its steps does. -/
theorem bind_ne_raise {x : Result α} {f : α → Result β} {e : PyExc} (hx : x ≠ raise e)
    (hf : ∀ a, f a ≠ raise e) : x >>= f ≠ raise e := by
  cases x <;> simp_all

/-- A `try` whose handler raises no `KeyError` lets none through. -/
theorem exceptKeyError_ne_keyError (x : Result α) {h : String → Result α}
    (hh : ∀ k k', h k ≠ raise (.keyError k')) (k' : String) :
    exceptKeyError x h ≠ raise (.keyError k') := by
  rcases x with a | (k | m | _ | _) | _ <;> simp [exceptKeyError, hh]

/-! ## Loops

A `for` loop is Lean's `forIn` over the list it walks, in this monad. The loops of the
client whose body always continues and only appends what an independent call returns are
the `mapM` of that call. -/

theorem mapM_eq_ok {l : List α} {r : α → Result β} {g : α → β} (h : ∀ a ∈ l, r a = ok (g a)) :
    l.mapM r = ok (l.map g) := by
  induction l with
  | nil => rfl
  | cons a l ih =>
    rw [List.mapM_cons, h a (List.mem_cons_self a l),
      ih fun a' ha' => h a' (List.mem_cons_of_mem a ha')]
    rfl

/-- **A loop that appends**: a body that always continues and adds to the state what an
independent call returns runs as the `mapM` of that call, on states where `P` holds. -/
theorem forIn_eq_mapM {σ M : Type} (l : List α) (r : α → Result (List M))
    (add : σ → List M → σ) (hadd : ∀ s ms ms', add (add s ms) ms' = add s (ms ++ ms'))
    (hnil : ∀ s, add s [] = s) (P : σ → Prop) (hP : ∀ s ms, P s → P (add s ms))
    (f : α → σ → Result (ForInStep σ))
    (hf : ∀ a ∈ l, ∀ s, P s → f a s = r a >>= fun ms => pure (.yield (add s ms)))
    (s : σ) (hs : P s) :
    forIn l s f = l.mapM r >>= fun mss => pure (add s mss.flatten) := by
  induction l generalizing s with
  | nil => rw [List.forIn_nil, List.mapM_nil, pure_bind, List.flatten_nil, hnil]
  | cons a l ih =>
    rw [List.forIn_cons, hf a (List.mem_cons_self a l) s hs, List.mapM_cons]
    rcases hr : r a with ms | e | _
    · simp only [ok_bind, pure_eq]
      rw [ih (fun a' ha' => hf a' (List.mem_cons_of_mem a ha')) _ (hP s ms hs)]
      rcases l.mapM r with mss | e | _ <;> simp [hadd]
    · rfl
    · rfl

/-- **A loop invariant**: a property of the loop's state that every pass of the body keeps
holds when the loop returns, whether it ran to the end or broke. -/
theorem forIn_inv {σ : Type} (P : σ → Prop) {f : α → σ → Result (ForInStep σ)} :
    ∀ {l : List α}, (∀ a ∈ l, ∀ s r, P s → f a s = ok r → P r.value) →
      ∀ {s s' : σ}, P s → forIn l s f = ok s' → P s'
  | [], _, _, _, hs, h => by cases h; exact hs
  | a :: l, hf, s, s', hs, h => by
    rw [List.forIn_cons] at h
    obtain ⟨r, hr, h⟩ := bind_eq_ok.1 h
    have hr' := hf a (List.mem_cons_self a l) s r hs hr
    cases r with
    | done b => cases h; exact hr'
    | yield b => exact forIn_inv P (fun a' ha' => hf a' (List.mem_cons_of_mem a ha')) hr' h

end Result

/-! ## Strings and lists -/

/-- `l[i]`. -/
def getIndex {α : Type} (l : List α) (i : Nat) : Result α :=
  match l[i]? with
  | some a => .ok a
  | none => .raise .indexError

/-- The pieces of `s.split(sep)` for a one-character separator, as character lists. -/
def splitChars (sep : Char) : List Char → List (List Char)
  | [] => [[]]
  | c :: cs =>
    if c = sep then [] :: splitChars sep cs
    else match splitChars sep cs with
      | w :: ws => (c :: w) :: ws
      | [] => [[c]]

/-- `s.split(sep)` for a one-character separator. -/
def strSplit (s : String) (sep : Char) : List String := (splitChars sep s.data).map String.mk

/-- A string with no separator splits into itself alone. -/
theorem splitChars_of_not_mem {sep : Char} {cs : List Char} (h : sep ∉ cs) :
    splitChars sep cs = [cs] := by
  induction cs with
  | nil => rfl
  | cons c cs ih =>
    have hc : c ≠ sep := fun hc => h (hc ▸ List.mem_cons_self c cs)
    simp [splitChars, hc, ih (fun hm => h (List.mem_cons_of_mem c hm))]

/-- The text before the first separator is the first piece, and the rest is split on. -/
theorem splitChars_append_sep {sep : Char} {a : List Char} (ha : sep ∉ a) (b : List Char) :
    splitChars sep (a ++ sep :: b) = a :: splitChars sep b := by
  induction a with
  | nil => simp [splitChars]
  | cons c a ih =>
    have hc : c ≠ sep := fun hc => ha (hc ▸ List.mem_cons_self c a)
    simp [splitChars, hc, ih (fun hm => ha (List.mem_cons_of_mem c hm))]

/-- The first piece runs up to the first separator. -/
theorem head?_splitChars (sep : Char) (cs : List Char) :
    (splitChars sep cs).head? = some (cs.takeWhile (· != sep)) := by
  induction cs with
  | nil => rfl
  | cons c cs ih =>
    by_cases hc : c = sep
    · simp [splitChars, hc]
    · rw [splitChars, if_neg hc]
      split
      · next w ws hw => simp_all
      · next hw => simp [hw] at ih

/-! ## Parsing integers and bytes -/

/-- `Py_ISSPACE`: the ASCII whitespace that `int()` skips around a literal. -/
def isAsciiSpace (c : Char) : Bool :=
  c = ' ' || c = '\t' || c = '\n' || c = '\r' || c.toNat = 11 || c.toNat = 12

/-- `str.isspace()` on one character (`Py_UNICODE_ISSPACE`). -/
def isPySpace (c : Char) : Bool :=
  let n := c.toNat
  (9 ≤ n && n ≤ 13) || (0x1C ≤ n && n ≤ 0x20) || n = 0x85 || n = 0xA0 || n = 0x1680 ||
    (0x2000 ≤ n && n ≤ 0x200A) || n = 0x2028 || n = 0x2029 || n = 0x202F || n = 0x205F ||
    n = 0x3000

/-- The first code point of each run of ten Unicode decimal digits (general category `Nd`):
a digit's value is its offset in its run. -/
def decimalZeros : List Nat :=
  [0x30, 0x660, 0x6F0, 0x7C0, 0x966, 0x9E6, 0xA66, 0xAE6, 0xB66, 0xBE6, 0xC66, 0xCE6, 0xD66,
    0xDE6, 0xE50, 0xED0, 0xF20, 0x1040, 0x1090, 0x17E0, 0x1810, 0x1946, 0x19D0, 0x1A80, 0x1A90,
    0x1B50, 0x1BB0, 0x1C40, 0x1C50, 0xA620, 0xA8D0, 0xA900, 0xA9D0, 0xA9F0, 0xAA50, 0xABF0,
    0xFF10, 0x104A0, 0x10D30, 0x11066, 0x110F0, 0x11136, 0x111D0, 0x112F0, 0x11450, 0x114D0,
    0x11650, 0x116C0, 0x11730, 0x118E0, 0x11950, 0x11C50, 0x11D50, 0x11DA0, 0x11F50, 0x16A60,
    0x16AC0, 0x16B50, 0x1D7CE, 0x1D7D8, 0x1D7E2, 0x1D7EC, 0x1D7F6, 0x1E140, 0x1E2F0, 0x1E4F0,
    0x1E950, 0x1FBF0]

/-- `unicodedata.decimal(c, None)`: the value of a Unicode decimal digit. -/
def decimalDigit (c : Char) : Option Nat :=
  (decimalZeros.find? fun z => z ≤ c.toNat && c.toNat < z + 10).map (c.toNat - ·)

/-- CPython's `_PyUnicode_TransformDecimalAndSpaceToASCII`, applied by `int()` before it parses:
whitespace becomes a space, a decimal digit its ASCII digit, and any other non-ASCII character
one that no literal contains. -/
def toAsciiDecimal (c : Char) : Char :=
  if isPySpace c then ' '
  else match decimalDigit c with
    | some d => Char.ofNat ('0'.toNat + d)
    | none => if c.toNat < 128 then c else '?'

/-- The strip of ASCII whitespace around a literal; after `toAsciiDecimal` every whitespace
character is ASCII. -/
def stripChars (cs : List Char) : List Char :=
  ((cs.dropWhile isAsciiSpace).reverse.dropWhile isAsciiSpace).reverse

/-- The value of a run of decimal digits with single underscores between digits, after a
digit has been read (`afterUnderscore` says whether the last character was `_`). -/
def digitsFrom (acc : Nat) (afterUnderscore : Bool) : List Char → Option Nat
  | [] => if afterUnderscore then none else some acc
  | c :: cs =>
    if c.isDigit then digitsFrom (10 * acc + (c.toNat - '0'.toNat)) false cs
    else if c = '_' && !afterUnderscore then digitsFrom acc true cs
    else none

/-- A non-empty decimal literal as `int()` reads it, underscores allowed between digits. -/
def decimalValue : List Char → Option Nat
  | c :: cs => if c.isDigit then digitsFrom (c.toNat - '0'.toNat) false cs else none
  | [] => none

/-- `int(s)` for a `str`, in base 10, as CPython reads it: Unicode whitespace and decimal digits
are first mapped to ASCII (`toAsciiDecimal`), then the whitespace around the literal is
stripped, and an optional sign and a decimal literal are read. -/
def pyInt (s : String) : Result Int :=
  let invalid : Result Int := .raise (.valueError "invalid literal for int() with base 10")
  match stripChars (s.data.map toAsciiDecimal) with
  | '-' :: ds => ((decimalValue ds).map fun n => .ok (-(n : Int))).getD invalid
  | '+' :: ds => ((decimalValue ds).map fun n => .ok (n : Int)).getD invalid
  | ds => ((decimalValue ds).map fun n => .ok (n : Int)).getD invalid

/-- The value of one hexadecimal digit. -/
def hexDigit (c : Char) : Option Nat :=
  if c.isDigit then some (c.toNat - '0'.toNat)
  else if 'a' ≤ c ∧ c ≤ 'f' then some (c.toNat - 'a'.toNat + 10)
  else if 'A' ≤ c ∧ c ≤ 'F' then some (c.toNat - 'A'.toNat + 10)
  else none

/-- The byte written by two hexadecimal digits. -/
def hexByte (hi lo : Char) : Option UInt8 := do
  let h ← hexDigit hi
  let l ← hexDigit lo
  pure (UInt8.ofNat (16 * h + l))

/-- The bytes of an even-length run of hexadecimal digits. -/
def unhexChars : List Char → Option (List UInt8)
  | [] => some []
  | [_] => none
  | hi :: lo :: cs => do
    let b ← hexByte hi lo
    let bs ← unhexChars cs
    pure (b :: bs)

/-- `binascii.unhexlify(s)`: an odd length or a non-hexadecimal digit raises
`binascii.Error`, a subclass of `ValueError`. -/
def unhexlify (s : String) : Result (List UInt8) :=
  if s.length % 2 = 1 then .raise (.valueError "Odd-length string")
  else match unhexChars s.data with
    | some bs => .ok bs
    | none => .raise (.valueError "Non-hexadecimal digit found")

/-- The bytes of `bytes.fromhex`: ASCII whitespace before each pair is skipped. -/
def fromhexChars : List Char → Option (List UInt8)
  | [] => some []
  | c :: cs =>
    if isAsciiSpace c then fromhexChars cs
    else match cs with
      | lo :: rest => do
        let b ← hexByte c lo
        let bs ← fromhexChars rest
        pure (b :: bs)
      | [] => none

/-- `bytes.fromhex(s)`. -/
def fromhex (s : String) : Result (List UInt8) :=
  match fromhexChars s.data with
  | some bs => .ok bs
  | none => .raise (.valueError "non-hexadecimal number found in fromhex() arg")

end BackendClient
