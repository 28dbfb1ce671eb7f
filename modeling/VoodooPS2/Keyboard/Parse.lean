import Mathlib.Logic.Function.Basic
import VoodooPS2.Keyboard.Map
import VoodooPS2.Numeral.Basic

namespace Keyboard

-- The characters up to the zero that ends the string.
abbrev CString := List Char

abbrev nul : Char := Char.ofNat 0

def hexDigit? (c : Char) : Option Nat :=
  if '0' ≤ c ∧ c ≤ '9' then some (c.toNat - '0'.toNat)
  else if 'a' ≤ c ∧ c ≤ 'f' then some (c.toNat - 'a'.toNat + 10)
  else if 'A' ≤ c ∧ c ≤ 'F' then some (c.toNat - 'A'.toNat + 10)
  else none

-- The number and the string from the terminator on.
def parseHex (psz : CString) (term1 term2 : Char) : Option (UInt32 × CString) :=
  Numeral.scan (fun c => term1 = c ∨ term2 = c) hexDigit? (fun n d => n <<< 4 + .ofNat d) 0 psz

def parseRemap (psz : CString) : Option (UInt16 × UInt16) := do
  let (n, psz) ← parseHex psz '=' nul
  match psz with
  | '=' :: psz =>
    if n > 0xffff then
      none
    else do
      let scanFrom := n.toUInt16
      let (n, _) ← parseHex psz '\n' ';'
      if n > 0xffff then
        none
      else
        pure (scanFrom, n.toUInt16)
  | _ => none

-- A scan code with the byte `ex` before it.
def tableIndex (ex code : UInt8) : Nat :=
  code.toNat + if ex = 0xe0 then kbvNumScancodes else 0

-- The loop over an array. Entries that are not strings are skipped, and so are comments.
def loadEntries {σ : Type} (entry : σ → CString → σ) (pArray : List (Option CString)) (t : σ) : σ :=
  pArray.foldl (fun t pString =>
    match pString with
    | none     => t
    | some psz => if psz.head? = some ';' then t else entry t psz) t

theorem loadEntries_induct {σ : Type} {entry : σ → CString → σ} {P : σ → Prop} {t : σ}
    (h : ∀ t psz, P t → P (entry t psz)) (ht : P t) (pArray : List (Option CString)) :
    P (loadEntries entry pArray t) := by
  induction pArray generalizing t
  case nil => exact ht
  case cons pString pArray hi =>
    apply hi
    cases pString
    case none     => exact ht
    case some psz =>
      dsimp only
      split
      case isTrue  => exact ht
      case isFalse => exact h t psz ht

def customPS2MapEntry (ps2ToPS2Map : Nat → Nat) (psz : CString) : Nat → Nat :=
  match parseRemap psz with
  | none                   => ps2ToPS2Map
  | some (scanIn, scanOut) =>
    let exIn := (scanIn >>> 8).toUInt8
    let exOut := (scanOut >>> 8).toUInt8
    if (exIn ≠ 0 ∧ exIn ≠ 0xe0) ∨ (exOut ≠ 0 ∧ exOut ≠ 0xe0) then
      ps2ToPS2Map
    else
      Function.update ps2ToPS2Map (tableIndex exIn scanIn.toUInt8) (tableIndex exOut scanOut.toUInt8)

def loadCustomPS2Map : List (Option CString) → (Nat → Nat) → Nat → Nat :=
  loadEntries customPS2MapEntry

def breaklessPS2Entry (ps2flags : Nat → UInt16) (psz : CString) : Nat → UInt16 :=
  match parseHex psz '\n' ';' with
  | none             => ps2flags
  | some (scanIn, _) =>
    let exIn := (scanIn >>> 8).toUInt8
    if exIn ≠ 0 ∧ exIn ≠ 0xe0 then
      ps2flags
    else
      let index := tableIndex exIn scanIn.toUInt8
      Function.update ps2flags index (ps2flags index ||| kBreaklessKey)

def loadBreaklessPS2 : List (Option CString) → (Nat → UInt16) → Nat → UInt16 :=
  loadEntries breaklessPS2Entry

-- The loop of `parseAction`, with `i` entries that are filled and `left` entries that are free. It ends
-- with the number of filled entries, or with an error.
def parseAction.loop : Nat → CString → Nat → List UInt16 → Option Nat × List UInt16
  | 0, _, i, dest          => (some i, dest)
  | _ + 1, [], i, dest     => (some i, dest)
  | left + 1, psz, i, dest =>
    match parseHex psz ' ' nul with
    | some (n, ' ' :: c :: psz) =>
      if c ≠ 'd' ∧ c ≠ 'u' then
        (none, dest)
      else
        let dest := dest.set i (n ||| if c = 'u' then 0x1000 else 0).toUInt16
        match psz with
        | []         => (some (i + 1), dest)
        | ',' :: psz => loop left (psz.dropWhile (· = ' ')) (i + 1) dest
        | _          => (none, dest)
    | _ => (none, dest)

-- `size` is the number of entries of `dest`.
def parseAction (psz : CString) (dest : List UInt16) : Bool × List UInt16 :=
  match parseAction.loop dest.length psz 0 dest with
  | (some i, dest) => if dest.length ≤ i then (false, dest.set 0 0) else (true, dest.set i 0)
  | (none, dest)   => (false, dest.set 0 0)

end Keyboard
