/-
# SciCalc.Text.Quoted -- strings in quotes

A quoted string stands in single quotes, or in double quotes if it holds a single
and no double one.  The backslash, the quote in use, the line feed, the carriage
return and the tab are escaped by a backslash; any other character that is not
printable is written by its code, with two, four or eight hexadecimal digits.
-/
import SciCalc.Text.Printable

namespace SciCalc.Text

set_option autoImplicit false

def singleQuote : Char := Char.ofNat 0x27

def doubleQuote : Char := Char.ofNat 0x22

/-- A number in hexadecimal digits, padded with zeros to a width. -/
def hex (width n : Nat) : List Char :=
  let digits := Nat.toDigits 16 n
  List.replicate (width - digits.length) '0' ++ digits

def codeEscape (c : Char) : List Char :=
  if c.toNat < 0x100 then '\\' :: 'x' :: hex 2 c.toNat
  else if c.toNat < 0x10000 then '\\' :: 'u' :: hex 4 c.toNat
  else '\\' :: 'U' :: hex 8 c.toNat

def escape (quote c : Char) : List Char :=
  if c = quote ∨ c = '\\' then ['\\', c]
  else if c = '\n' then ['\\', 'n']
  else if c = '\r' then ['\\', 'r']
  else if c = '\t' then ['\\', 't']
  else if isPrintable c then [c]
  else codeEscape c

def quoted (s : String) : String :=
  let cs := s.toList
  let quote := if cs.contains singleQuote && !cs.contains doubleQuote then doubleQuote
    else singleQuote
  String.ofList (quote :: cs.flatMap (escape quote) ++ [quote])

end SciCalc.Text
