import InstanceCatalog.Numeral.Digits
import InstanceCatalog.Text.Pieces

/-! # Numeric hosts

A host may be a number in four parts, or in up to eight parts of hexadecimal digits, of which one
run of zeros can be left out. -/

namespace InstanceCatalog.Http.Host

open Text Numeral

/-- One of four parts: a number below 256 without leading zeros. -/
def isOctet (s : List Char) : Bool :=
  isDigits s && s.length ≤ 3 && (s == ['0'] || s.head? != some '0') && ofDigits s ≤ 255

/-- Whether a host has four parts of digits, and so is meant as a number. -/
def looksNumeric (s : List Char) : Bool :=
  let parts := splitAt (· == '.') s
  parts.length == 4 && parts.all isDigits

def isIpv4 (s : List Char) : Bool :=
  let parts := splitAt (· == '.') s
  parts.length == 4 && parts.all isOctet

/-- One of eight parts. -/
def isHextet (s : List Char) : Bool := !s.isEmpty && s.length ≤ 4 && s.all isHexDigit

/-- The parts of a numeric host between colons, in which four decimal parts at the end count as
two. -/
def hextets? (s : List Char) : Option (List (List Char)) :=
  let parts := splitAt (· == ':') s
  match parts.getLast? with
  | some last =>
    if '.' ∈ last then
      if isIpv4 last then some (parts.dropLast ++ [['0'], ['0']]) else none
    else some parts
  | none => none

/-- Whether parts are a whole number.  An empty part stands for a run of zeros; at either end it
stands beside another one. -/
def areWhole (parts : List (List Char)) : Bool :=
  let inner := (parts.drop 1).dropLast
  match inner.count [] with
  | 0 => parts.length == 8 && parts.all isHextet
  | 1 =>
    let high := parts.takeWhile (!·.isEmpty)
    let low := (parts.reverse.takeWhile (!·.isEmpty)).reverse
    let high := if parts.head? = some [] then (inner.takeWhile (!·.isEmpty)) else high
    let low := if parts.getLast? = some [] then
        (inner.reverse.takeWhile (!·.isEmpty)).reverse else low
    (parts.head? != some [] || high.isEmpty) && (parts.getLast? != some [] || low.isEmpty)
      && high.length + low.length < 8 && (high ++ low).all isHextet
  | _ => false

/-- A host of hexadecimal parts may name the network it is on after a percent sign. -/
def isIpv6 (s : List Char) : Bool :=
  let (number, scope) := cutAt (· == '%') s
  scope.all (fun t ↦ !t.isEmpty && '%' ∉ t)
    && match hextets? number with
      | some parts => 3 ≤ (splitAt (· == ':') number).length && parts.length ≤ 9 && areWhole parts
      | none => false

end InstanceCatalog.Http.Host
