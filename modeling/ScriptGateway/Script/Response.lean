import ScriptGateway.Script.HeaderBlock
import ScriptGateway.Text.Html
/-!
# Results of an execution

A response of a script is a status, a header block and a body. Without an interpreter a
fixed page takes its place, which shows the script and the thread.

* `Response.headerPairs` reads the header block.
* `FallbackPage.size` is what the page's buffer is reserved for; the thread index may take
  up to eleven characters.
-/

namespace ScriptGateway.Script

/-- The status of a response if the script sets none. -/
def defaultStatus : Nat := 200

/-- Status, raw header block and body of one execution. -/
structure Response where
  status : Nat
  headers : Bytes
  body : Bytes
  deriving DecidableEq, Repr

namespace Response

/-- The names and values in the header block. -/
def headerPairs (r : Response) : List (String × String) :=
  HeaderBlock.pairsOfBytes r.headers

/-- The value of the first header of that name, in any case. -/
def header? (r : Response) (name : String) : Option String :=
  HeaderBlock.find? name r.headerPairs

end Response

namespace FallbackPage

/-- The page up to the script. -/
def head : String :=
  "<!DOCTYPE html>\n<html><head><title>php-embed-bridge</title></head>\n"
    ++ "<body><h1>php-embed-bridge (fallback mode)</h1>\n<p>Script: <code>"

/-- The page between script and thread. -/
def middle : String :=
  "</code></p>\n<p>Thread: "

/-- The page after the thread. -/
def tail : String :=
  "</p>\n<p><em>PHP embedding unavailable in current build</em></p>\n</body></html>"

/-- The characters reserved for a thread index. -/
def threadDigits : Nat := 11

/-- The bytes reserved for the page of a script. -/
def size (script : String) : Nat :=
  head.utf8ByteSize + Text.Html.escapedSize script + middle.utf8ByteSize + threadDigits
    + tail.utf8ByteSize

/-- The page. -/
def text (script : String) (thread : Int32) : String :=
  head ++ Text.Html.escape script ++ middle ++ String.ofList (Decimal.ofInt thread.toInt) ++ tail

/-- The response with the page. -/
def response (script : String) (thread : Int32) : Response :=
  { status := defaultStatus
    headers := Text.Utf8.encode HeaderBlock.default
    body := Bytes.ofText (text script thread) }

end FallbackPage

end ScriptGateway.Script
