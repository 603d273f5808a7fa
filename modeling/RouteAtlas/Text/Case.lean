import RouteAtlas.Text.CaseTable

/-!
# Upper, lower and title case

Case mapping of whole texts. One character may become several, and a capital sigma becomes a final
sigma at the end of a word. In title case a cased character is put in its title form when the
character before it is not cased, and in its lower form otherwise.
-/

set_option autoImplicit false

namespace RouteAtlas.Text

/-- The character a case run moves a code point to, when the run holds it. -/
def CaseRun.apply? (run : CaseRun) (n : Nat) : Option Char :=
  if run.first ≤ n && n ≤ run.last && (n - run.first) % run.step == 0 then
    some (Char.ofNat (Int.toNat (n + run.shift)))
  else none

/-- Looks a code point up among the mappings to several characters. -/
def longForm? (table : List (Nat × List Nat)) (c : Char) : Option Text :=
  (table.lookup c.toNat).map fun codes => codes.map Char.ofNat

/-- Maps a character outside ASCII by a table of long forms and a table of runs. -/
def mapCase (long : List (Nat × List Nat)) (runs : List CaseRun) (c : Char) : Text :=
  match longForm? long c with
  | some text => text
  | none => [(runs.findSome? fun run => run.apply? c.toNat).getD c]

/-- The upper form of a character. -/
def upperChar (c : Char) : Text :=
  if c.toNat < 128 then [c.toUpper] else mapCase upperLong upperRuns c

/-- The lower form of a character that does not depend on its place. -/
def lowerChar (c : Char) : Text :=
  if c.toNat < 128 then [c.toLower] else mapCase lowerLong lowerRuns c

/-- The title form of a character. -/
def titleChar (c : Char) : Text :=
  if c.toNat < 128 then [c.toUpper] else (longForm? titleForms c).getD (upperChar c)

/-- Characters that have an upper, a lower or a title form. -/
def isCased (c : Char) : Bool :=
  if c.toNat < 128 then c.isAlpha else inRanges casedRanges c

/-- Characters passed over between the letters of a word. -/
def isTransparent (c : Char) : Bool :=
  if c.toNat < 128 then c = '\'' || c = '.' || c = ':' || c = '^' || c = '\x60'
  else inRanges transparentRanges c

/-- The next character that is not passed over is cased. -/
def meetsCased (text : Text) : Bool :=
  match text.dropWhile isTransparent with
  | [] => false
  | c :: _ => isCased c

/-- The lower form of a character between the text before it, last character first, and the text
behind it: a capital sigma that ends a word becomes a final sigma. -/
def lowerAt (before : Text) (c : Char) (behind : Text) : Text :=
  if c = 'Σ' then
    if meetsCased before && !meetsCased behind then ['ς'] else ['σ']
  else lowerChar c

/-- Lower case, with the text already read in reverse. -/
def lowerFrom : Text → Text → Text
  | _, [] => []
  | before, c :: rest => lowerAt before c rest ++ lowerFrom (c :: before) rest

/-- A text in lower case. -/
def lower (text : Text) : Text := lowerFrom [] text

/-- A text in upper case. -/
def upper (text : Text) : Text := text.flatMap upperChar

/-- Title case, with the text already read in reverse. -/
def titleFrom : Text → Text → Text
  | _, [] => []
  | before, c :: rest =>
      let written :=
        match before with
        | [] => titleChar c
        | previous :: _ => if isCased previous then lowerAt before c rest else titleChar c
      written ++ titleFrom (c :: before) rest

/-- A text in title case. -/
def title (text : Text) : Text := titleFrom [] text

end RouteAtlas.Text
