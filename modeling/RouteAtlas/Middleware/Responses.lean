import RouteAtlas.Middleware.Vocabulary
import RouteAtlas.Source.Literal
import RouteAtlas.Text.Digit

/-!
# Declared responses

Responses are declared by object literals with a status and a schema, anywhere in an expression, or by
the positional form of the response validator. A response without a description of its own is
described by the phrase of its status.
-/

set_option autoImplicit false

namespace RouteAtlas.Middleware

open Text Source

/-- A declared response: its status, the expression of its schema and its description. -/
structure ResponseEntry where
  status : Text
  schema : Text
  description : Option Text
  deriving DecidableEq, Repr, Inhabited

/-- The response an object literal declares. -/
def responseOf? (entries : Table Text Text) : Option ResponseEntry := do
  let status ← entries.get? "status".toList
  let schema ← entries.get? "schema".toList
  pure
    { status := unquoteOr status status
      schema := schema
      description := match entries.get? "description".toList with
        | some (c :: rest) => unquote? (c :: rest)
        | _ => none }

/-- The entries of the literal with a given content; a malformed one has none. -/
def literalEntries (content : Text) : Table Text Text :=
  match objectLiteral ('\x7b' :: (content ++ ['\x7d'])) with
  | .ok entries => entries
  | .error _ => []

/-- The responses declared from an offset on, passing over the first `skip` characters. -/
def literalResponses : Nat → Nat → Text → Except Fault (List ResponseEntry)
  | _, _, [] => .ok []
  | skip + 1, offset, _ :: rest => literalResponses skip (offset + 1) rest
  | 0, offset, c :: rest =>
      if c = '\x7b' then do
        let (inside, _) ← splitAtCloser .curly (offset + 1) (offset + 1) 0 (lex rest)
        match responseOf? (literalEntries (raw inside)) with
        | some entry => do
            let others ← literalResponses ((raw inside).length + 1) (offset + 1) rest
            pure (entry :: others)
        | none => literalResponses 0 (offset + 1) rest
      else literalResponses 0 (offset + 1) rest

/-- The response of the positional form. -/
def positionalResponse? : List Text → Option ResponseEntry
  | status :: schema :: rest =>
      let shown := unquoteOr status status
      if !shown.isEmpty && shown.all isDigit then
        some { status := shown, schema := schema, description := rest.head?.bind unquote? }
      else none
  | _ => none

/-- The responses declared in an expression, in order. -/
def declaredResponses (expression : Text) : Except Fault (List ResponseEntry) := do
  match ← literalResponses 0 0 expression with
  | [] =>
      if mentions expression responseValidator then do
        let given ← argumentsOfCall expression responseValidator
        pure (positionalResponse? (given.getD [])).toList
      else pure []
  | entries => pure entries

/-- The phrases of the registered statuses. -/
def statusPhrases : List (Nat × String) :=
  [(100, "Continue"), (101, "Switching Protocols"), (102, "Processing"), (103, "Early Hints"),
   (200, "OK"), (201, "Created"), (202, "Accepted"), (203, "Non-Authoritative Information"),
   (204, "No Content"), (205, "Reset Content"), (206, "Partial Content"), (207, "Multi-Status"),
   (208, "Already Reported"), (226, "IM Used"), (300, "Multiple Choices"),
   (301, "Moved Permanently"), (302, "Found"), (303, "See Other"), (304, "Not Modified"),
   (305, "Use Proxy"), (307, "Temporary Redirect"), (308, "Permanent Redirect"),
   (400, "Bad Request"), (401, "Unauthorized"), (402, "Payment Required"), (403, "Forbidden"),
   (404, "Not Found"), (405, "Method Not Allowed"), (406, "Not Acceptable"),
   (407, "Proxy Authentication Required"), (408, "Request Timeout"), (409, "Conflict"),
   (410, "Gone"), (411, "Length Required"), (412, "Precondition Failed"),
   (413, "Request Entity Too Large"), (414, "Request-URI Too Long"),
   (415, "Unsupported Media Type"), (416, "Requested Range Not Satisfiable"),
   (417, "Expectation Failed"), (418, "I'm a Teapot"), (421, "Misdirected Request"),
   (422, "Unprocessable Entity"), (423, "Locked"), (424, "Failed Dependency"), (425, "Too Early"),
   (426, "Upgrade Required"), (428, "Precondition Required"), (429, "Too Many Requests"),
   (431, "Request Header Fields Too Large"), (451, "Unavailable For Legal Reasons"),
   (500, "Internal Server Error"), (501, "Not Implemented"), (502, "Bad Gateway"),
   (503, "Service Unavailable"), (504, "Gateway Timeout"), (505, "HTTP Version Not Supported"),
   (506, "Variant Also Negotiates"), (507, "Insufficient Storage"), (508, "Loop Detected"),
   (510, "Not Extended"), (511, "Network Authentication Required")]

/-- The phrase of a status, or the fallback when the status is not registered. -/
def phraseFor (status fallback : Text) : String :=
  match integer? status with
  | some (.ofNat code) => (statusPhrases.lookup code).getD (String.ofList fallback)
  | _ => String.ofList fallback

end RouteAtlas.Middleware
