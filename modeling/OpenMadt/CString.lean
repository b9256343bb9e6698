import OpenMadt.Basic

/-!
# The C library's number parsing

`strtoul` and `strtoull` on a 64-bit `unsigned long`, as C11 has them, which C++17 refers to, and as
glibc 2.35 does, the C library of the `ubuntu-22.04` that the releases are built on: leading white space,
one sign, the base prefix, then as many digits as there are; a negated result wraps around, and a value
beyond 64 bits reports `ERANGE`.  Base 0 knows the prefixes `0x` and `0`, but not the `0b` of C23, which
glibc reads from 2.38 on.  Bytes outside ASCII are neither space nor digit, so working on characters
instead of UTF-8 bytes changes nothing.
-/

namespace OpenMadt.CString

/-- `s.c_str()` as the C functions see it: up to the first NUL. -/
def cstr (s : String) : List Char := s.toList.takeWhile (· != '\x00')

/-- `isspace` in the C locale. -/
def isspace (c : Char) : Bool := c == ' ' || ('\x09' ≤ c && c ≤ '\x0d')

/-- The value of a digit in bases up to 36. -/
def digitValue (c : Char) : Option ℕ :=
  if '0' ≤ c && c ≤ '9' then some (c.toNat - 48)
  else if 'a' ≤ c && c ≤ 'z' then some (c.toNat - 87)
  else if 'A' ≤ c && c ≤ 'Z' then some (c.toNat - 55)
  else none

def isDigitOf (base : ℕ) (c : Char) : Bool :=
  match digitValue c with
  | some d => d < base
  | none => false

/-- The number a run of digits denotes. -/
def ofDigits (base : ℕ) (digits : List Char) : ℕ :=
  digits.foldl (fun n c => n * base + (digitValue c).getD 0) 0

/-- `2^64`. -/
abbrev ulongModulus : ℕ := 18446744073709551616

/-- What `strtoul` returns, where it sets `*end`, and whether it sets `errno` to `ERANGE`. -/
structure Strto where
  value : ℕ
  rest : List Char
  converted : Bool
  outOfRange : Bool
  deriving DecidableEq

/-- The sign, if there is one. -/
def takeSign : List Char → Bool × List Char
  | '-' :: rest => (true, rest)
  | '+' :: rest => (false, rest)
  | rest => (false, rest)

/-- The base and where the digits begin: `0x` counts as a prefix only in front of a hexadecimal
digit, and base 0 chooses between 16, 8 and 10. -/
def takePrefix (base : ℕ) (s : List Char) : ℕ × List Char :=
  match s with
  | '0' :: x :: d :: rest =>
    if (base = 0 ∨ base = 16) ∧ (x = 'x' ∨ x = 'X') ∧ isDigitOf 16 d then (16, d :: rest)
    else if base = 0 then (8, s) else (base, s)
  | '0' :: _ => if base = 0 then (8, s) else (base, s)
  | _ => if base = 0 then (10, s) else (base, s)

/-- `strtoul` and `strtoull`. -/
def strtoul (base : ℕ) (s : List Char) : Strto :=
  let signed := takeSign (s.dropWhile isspace)
  let prefixed := takePrefix base signed.2
  let digits := prefixed.2.takeWhile (isDigitOf prefixed.1)
  let rest := prefixed.2.dropWhile (isDigitOf prefixed.1)
  let n := ofDigits prefixed.1 digits
  if digits = [] then
    { value := 0, rest := s, converted := false, outOfRange := false }
  else if ulongModulus ≤ n then
    { value := ulongModulus - 1, rest := rest, converted := true, outOfRange := true }
  else if signed.1 then
    { value := (ulongModulus - n) % ulongModulus, rest := rest, converted := true
      outOfRange := false }
  else
    { value := n, rest := rest, converted := true, outOfRange := false }

/-- `std::stoull(s, &parsed, base)`: the value and the number of characters parsed, or `none` where
it throws. -/
def stoull (s : String) (base : ℕ) : Option (ℕ × ℕ) :=
  let r := strtoul base (cstr s)
  if r.converted ∧ ¬ r.outOfRange then some (r.value, (cstr s).length - r.rest.length) else none

end OpenMadt.CString
