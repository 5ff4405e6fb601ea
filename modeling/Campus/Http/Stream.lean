import Campus.Http.Message
import Campus.Http.Status
import Campus.Text.Blank
import Campus.Text.Cut
import Campus.Text.Digits

/-! # Requests and answers on a stream

The head of a request as lines of text, and the text of an answer. What the reader of a stream does not understand it does not
take.
-/
namespace Campus.Http

/-- A line of a head: a name in small letters, and the value behind the colon. -/
def header? (line : String) : Option (String × String) :=
  match line.toList.span (· ≠ ':') with
  | (name, ':' :: value) => some (String.ofList (name.map Char.toLower), String.ofList (Text.trim value))
  | _ => none

/-- The request that the lines of a head begin, without its body, and the number of bytes that the body has. -/
def Request.ofHead? (lines : List String) : Option (Request × Nat) :=
  match lines with
  | [] => none
  | first :: rest =>
    match Text.cut ' ' first.toList with
    | method :: target :: _ =>
      let headers := rest.filterMap header?
      let length := ((headers.lookup "content-length").getD "").toList
      some (
        { method := String.ofList method
          target
          requestId := headers.lookup "x-request-id"
          contentType := headers.lookup "content-type"
          body := [] },
        if length.all Char.isDigit then Text.digitsValue length else 0)
    | _ => none

/-- The text of an answer that repeats an id. The length is that of the body as it is sent. -/
def Answer.render (a : Answer) (id : String) : String :=
  let header (name : String) (value : String) := s!"{name}: {value}\r\n"
  let optional (name : String) (value : Option String) := (value.map (header name)).getD ""
  s!"HTTP/1.1 {statusText a.status}\r\n" ++ optional "content-type" a.contentType ++ optional "allow" a.allow ++
    header "x-request-id" id ++ header "content-length" (toString a.bytes.length) ++ "\r\n" ++ String.ofList a.body

end Campus.Http
