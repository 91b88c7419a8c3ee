/-!
# Lines

A text is a sequence of lines, each but the last closed by a line feed. Carriage returns are no
part of a line wherever they stand: lines may be closed by either convention, and a tool that
redraws its last line leaves carriage returns inside it. The bytes of a text are taken apart at
line feeds in the same way, before they are known to be text.

## Main definitions

* `withoutReturns`: a text without its carriage returns.
* `lines`: the lines of a text.
* `byteLines`: the lines of a sequence of bytes.
* `decodeUtf8?`: the text that a sequence of bytes is the UTF-8 form of.
-/

namespace CompileCommands.Text

/-- The text without its carriage returns. -/
def withoutReturns (text : List Char) : List Char :=
  text.filter (· != '\r')

/-- The lines of a text, carriage returns left out. -/
def lines (text : List Char) : List (List Char) :=
  (withoutReturns text).splitOn '\n'

/-- The lines of a sequence of bytes. -/
def byteLines (bytes : List UInt8) : List (List UInt8) :=
  bytes.splitOn 10

/-- The text that the bytes are the UTF-8 form of, if they are well formed. -/
def decodeUtf8? (bytes : List UInt8) : Option (List Char) :=
  (String.fromUTF8? bytes.toByteArray).map String.toList

/-- A text has at least one line. -/
theorem lines_ne_nil (text : List Char) : lines text ≠ [] :=
  List.splitOnP_ne_nil (· == '\n') (withoutReturns text)

/-- Between line feeds stand the lines of a text. -/
theorem intercalate_lines (text : List Char) :
    List.intercalate ['\n'] (lines text) = withoutReturns text :=
  List.intercalate_splitOn '\n'

end CompileCommands.Text
