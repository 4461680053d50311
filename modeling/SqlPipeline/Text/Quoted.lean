import SqlPipeline.Bytes.Basic
import SqlPipeline.Text.Printable

/-!
Text and bytes between quotes. Single quotes are used unless the content has single quotes and no
double ones. The quote and the backslash are escaped, and so are characters that are not printable.
-/

namespace SqlPipeline
namespace Text

def quoteFor (s : Text) : Char :=
  if s.any (· = '\'') && !s.any (· = '"') then '"' else '\''

/-- Escapes common to text and bytes. -/
def shortEscape? (quote c : Char) : Option Text :=
  if c = quote ∨ c = '\\' then some ['\\', c]
  else if c = '\n' then some ['\\', 'n']
  else if c = '\r' then some ['\\', 'r']
  else if c = '\t' then some ['\\', 't']
  else none

def hexEscape (c : Char) : Text :=
  if c.toNat < 0x100 then '\\' :: 'x' :: Bytes.hexDigits 2 c.toNat
  else if c.toNat < 0x10000 then '\\' :: 'u' :: Bytes.hexDigits 4 c.toNat
  else '\\' :: 'U' :: Bytes.hexDigits 8 c.toNat

def escaped (quote c : Char) : Text :=
  (shortEscape? quote c).getD (if isPrintable c then [c] else hexEscape c)

def escapedByte (quote c : Char) : Text :=
  (shortEscape? quote c).getD (if ' ' ≤ c && c ≤ '~' then [c] else hexEscape c)

def quoted (s : Text) : Text :=
  let quote := quoteFor s
  quote :: s.flatMap (escaped quote) ++ [quote]

/-- Each byte as the character of its number. -/
def ofBytes (bytes : Bytes) : Text :=
  bytes.map fun byte => Char.ofNat byte.val

/-- Bytes between quotes, each below 128 shown as its character. -/
def quotedBytes (bytes : Bytes) : Text :=
  let s := ofBytes bytes
  let quote := quoteFor s
  quote :: s.flatMap (escapedByte quote) ++ [quote]

/-- Bytes between quotes, where a single quote is escaped also between double ones. -/
def guardedBytes (bytes : Bytes) : Text :=
  let s := ofBytes bytes
  let quote := quoteFor s
  quote :: s.flatMap (escapedByte '\'') ++ [quote]

end Text
end SqlPipeline
