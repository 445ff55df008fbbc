import LivePreview.Preset
import LivePreview.SourceFile
import LivePreview.Text.Blank
import LivePreview.Text.Word

namespace LivePreview

/-! The page a program runs in: what stands in the head and in the body of a document. -/

structure Markup where
  head : Option String
  body : String
deriving DecidableEq, Repr

namespace Markup

def after? (word text : List Char) : Option (List Char) :=
  match word, text with
  | [], text => some text
  | _ :: _, [] => none
  | letter :: word, c :: text => if c.toLower = letter then after? word text else none

@[simp] theorem after?_nil (text : List Char) : after? [] text = some text := by
  cases text <;> rfl

def afterAngle? : List Char → Option (List Char)
  | [] => none
  | c :: rest => if c = '>' then some rest else afterAngle? rest

/-- What follows an opening tag that starts here.  The name ends where no word character follows. -/
def afterOpening? (name text : List Char) : Option (List Char) :=
  match after? ('<' :: name) text with
  | none => none
  | some [] => none
  | some (c :: rest) => if Text.isWord c then none else afterAngle? (c :: rest)

def beforeClosing? (name : List Char) : List Char → Option (List Char)
  | [] => none
  | c :: rest =>
    if (after? ('<' :: '/' :: (name ++ ['>'])) (c :: rest)).isSome then some []
    else (beforeClosing? name rest).map (c :: ·)

def content? (name : List Char) : List Char → Option (List Char)
  | [] => none
  | c :: rest =>
    match (afterOpening? name (c :: rest)).bind (beforeClosing? name) with
    | some inner => some inner
    | none => content? name rest

def headName : List Char := ['h', 'e', 'a', 'd']

def bodyName : List Char := ['b', 'o', 'd', 'y']

def trimmed (text : List Char) : String :=
  String.ofList (Text.trim text)

/-- Markup without a body element is body as a whole. -/
def ofHtml (html : String) : Markup where
  head := (content? headName html.toList).map trimmed
  body := trimmed ((content? bodyName html.toList).getD html.toList)

/-- The project's own page, or the preset's. -/
def select (files : List SourceFile) (preset : Preset) : Markup :=
  match SourceFile.pagePaths.findSome? (SourceFile.find? files) with
  | some file => ofHtml file.source
  | none => ⟨none, preset.defaultBody⟩

end Markup

end LivePreview
