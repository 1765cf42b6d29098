import Mathlib.Data.List.Basic

/-!
# Base64

Three octets are four groups of six bits, from the highest bit down. Zero bits fill the last group of a
list that is no multiple of three octets; reading drops them again. A list of `n` groups has `3 * n / 4`
whole octets.
-/

namespace Base64

/-! ## Groups of six bits -/

def firstSextet (a : UInt8) : Fin 64 := .ofNat 64 (a.toNat / 4)
def secondSextet (a b : UInt8) : Fin 64 := .ofNat 64 (a.toNat % 4 * 16 + b.toNat / 16)
def thirdSextet (b c : UInt8) : Fin 64 := .ofNat 64 (b.toNat % 16 * 4 + c.toNat / 64)
def fourthSextet (c : UInt8) : Fin 64 := .ofNat 64 (c.toNat % 64)

def sextets : List UInt8 → List (Fin 64)
  | a :: b :: c :: rest => firstSextet a :: secondSextet a b :: thirdSextet b c :: fourthSextet c :: sextets rest
  | [a, b] => [firstSextet a, secondSextet a b, thirdSextet b 0]
  | [a] => [firstSextet a, secondSextet a 0]
  | [] => []

def firstOctet (v w : Fin 64) : UInt8 := .ofNat (v.val * 4 + w.val / 16)
def secondOctet (w x : Fin 64) : UInt8 := .ofNat (w.val % 16 * 16 + x.val / 4)
def thirdOctet (x y : Fin 64) : UInt8 := .ofNat (x.val % 4 * 64 + y.val)

/-- The whole octets of the groups. -/
def octets : List (Fin 64) → List UInt8
  | v :: w :: x :: y :: rest => firstOctet v w :: secondOctet w x :: thirdOctet x y :: octets rest
  | [v, w, x] => [firstOctet v w, secondOctet w x]
  | [v, w] => [firstOctet v w]
  | [_] => []
  | [] => []

section Octets

variable (a b c : UInt8)

@[simp] theorem firstOctet_sextets : firstOctet (firstSextet a) (secondSextet a b) = a := by
  have bound := a.toNat_lt
  have bound' := b.toNat_lt
  refine UInt8.toNat_inj.1 ?_
  simp only [firstOctet, firstSextet, secondSextet, Fin.val_ofNat, UInt8.toNat_ofNat']
  omega

@[simp] theorem secondOctet_sextets : secondOctet (secondSextet a b) (thirdSextet b c) = b := by
  have bound := b.toNat_lt
  have bound' := c.toNat_lt
  refine UInt8.toNat_inj.1 ?_
  simp only [secondOctet, secondSextet, thirdSextet, Fin.val_ofNat, UInt8.toNat_ofNat']
  omega

@[simp] theorem thirdOctet_sextets : thirdOctet (thirdSextet b c) (fourthSextet c) = c := by
  have bound := c.toNat_lt
  refine UInt8.toNat_inj.1 ?_
  simp only [thirdOctet, thirdSextet, fourthSextet, Fin.val_ofNat, UInt8.toNat_ofNat']
  omega

end Octets

theorem octets_sextets (bytes : List UInt8) : octets (sextets bytes) = bytes := by
  induction bytes using sextets.induct with
  | case1 a b c rest ih => simp [sextets, octets, ih]
  | case2 a b => simp [sextets, octets]
  | case3 a => simp [sextets, octets]
  | case4 => rfl

theorem length_sextets (bytes : List UInt8) : (sextets bytes).length = (4 * bytes.length + 2) / 3 := by
  induction bytes using sextets.induct with
  | case1 a b c rest ih =>
    simp only [sextets, List.length_cons, ih]
    omega
  | case2 a b => simp [sextets]
  | case3 a => simp [sextets]
  | case4 => rfl

theorem length_octets (groups : List (Fin 64)) : (octets groups).length = 3 * groups.length / 4 := by
  induction groups using octets.induct with
  | case1 v w x y rest ih =>
    simp only [octets, List.length_cons, ih]
    omega
  | case2 v w x => simp [octets]
  | case3 v w => simp [octets]
  | case4 v => simp [octets]
  | case5 => rfl

/-! ## The text -/

/-- The characters `A`–`Z`, `a`–`z`, `0`–`9`, `+` and `/`. -/
def alphabet (v : Fin 64) : UInt8 :=
  if v.val < 26 then .ofNat (v.val + 65)
  else if v.val < 52 then .ofNat (v.val - 26 + 97)
  else if v.val < 62 then .ofNat (v.val - 52 + 48)
  else if v.val = 62 then 43
  else 47

def isChar (c : UInt8) : Bool := decide (∃ v, alphabet v = c)

/-- The longest prefix of characters. -/
def leading (text : List UInt8) : List UInt8 := text.takeWhile isChar

def encode (bytes : List UInt8) : List UInt8 := (sextets bytes).map alphabet

/-- The sign `=` fills the last four characters. -/
def padding (bytes : List UInt8) : List UInt8 := List.replicate ((3 - bytes.length % 3) % 3) 61

end Base64
