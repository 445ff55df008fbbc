import LivePreview.SourceFile

namespace LivePreview

/-! What a path says about a file: the ending after its last dot. -/

/-- A path cut at its last dot. -/
structure DottedPath where
  stem : List Char
  ending : List Char
deriving DecidableEq, Repr

namespace DottedPath

def ofChars? (path : List Char) : Option DottedPath :=
  match path with
  | [] => none
  | c :: rest =>
    match ofChars? rest with
    | some cut => some { cut with stem := c :: cut.stem }
    | none => if c = '.' then some ⟨[], rest⟩ else none

theorem chars_of_ofChars? {path : List Char} {cut : DottedPath} (h : ofChars? path = some cut) :
    path = cut.stem ++ '.' :: cut.ending := by
  induction path generalizing cut with
  | nil => simp [ofChars?] at h
  | cons c rest ih =>
      cases hrest : ofChars? rest with
      | some inner =>
          simp only [ofChars?, hrest, Option.some.injEq] at h
          subst h
          simp [ih hrest]
      | none =>
          by_cases hc : c = '.'
          · simp only [ofChars?, hrest, hc, if_true, Option.some.injEq] at h
            subst h
            simp [hc]
          · simp [ofChars?, hrest, hc] at h

end DottedPath

/-! Endings of scripts: a letter for the kind of module or none, one for the language, an `s`, and
an `x` or nothing. -/

inductive ScriptLanguage
  | plain
  | typed
deriving DecidableEq, Repr

structure ScriptEnding where
  /-- Whether a letter says which kind of module the script is. -/
  marked : Bool
  language : ScriptLanguage
  /-- Whether the script may hold markup. -/
  markup : Bool
deriving DecidableEq, Repr

namespace ScriptEnding

def markup? : List Char → Option Bool
  | ['s'] => some false
  | ['s', 'x'] => some true
  | _ => none

def language? : List Char → Option (ScriptLanguage × List Char)
  | 'j' :: rest => some (.plain, rest)
  | 't' :: rest => some (.typed, rest)
  | _ => none

def unmarked? (marked : Bool) (ending : List Char) : Option ScriptEnding := do
  let (language, rest) ← language? ending
  let markup ← markup? rest
  return { marked, language, markup }

def ofChars? : List Char → Option ScriptEnding
  | 'm' :: rest => unmarked? true rest
  | 'c' :: rest => unmarked? true rest
  | ending => unmarked? false ending

/-- Scripts that a project's own pages are written in: all the plain ones, and typed ones with
markup unless their kind of module is marked. -/
def isPage (ending : ScriptEnding) : Bool :=
  match ending.language with
  | .plain => true
  | .typed => ending.markup && !ending.marked

end ScriptEnding

namespace SourceFile

def dotted? (file : SourceFile) : Option DottedPath :=
  DottedPath.ofChars? file.path.toList

def scriptEnding? (file : SourceFile) : Option ScriptEnding :=
  file.dotted?.bind fun cut => ScriptEnding.ofChars? cut.ending

/-- Typed scripts without markup whose stem ends in `.d` hold declarations only. -/
def isDeclaration (file : SourceFile) : Bool :=
  match file.dotted? with
  | none => false
  | some cut =>
    match ScriptEnding.ofChars? cut.ending with
    | some ⟨_, .typed, false⟩ => ['.', 'd'].isSuffixOf cut.stem
    | _ => false

/-- Scripts of the project itself that are kept alive across changes. -/
def isAppScript (file : SourceFile) : Bool :=
  !file.isInstalled && (file.scriptEnding?.map ScriptEnding.isPage).getD false

def isScript (file : SourceFile) : Bool :=
  file.scriptEnding?.isSome && !file.isDeclaration

def isLibraryScript (file : SourceFile) : Bool :=
  file.isScript && !file.isAppScript

def isStylesheet (file : SourceFile) : Bool :=
  (file.dotted?.map fun cut => cut.ending == ['c', 's', 's']).getD false

end SourceFile

end LivePreview
