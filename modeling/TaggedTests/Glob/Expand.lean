import TaggedTests.Glob

/-!
Finding the paths that a pattern fits.

Parts of a pattern without wildcards are followed without a look into the directory; the others are
compared with the names in it.
-/

namespace TaggedTests

/-- What a pattern has led to. -/
inductive Finding where
  | path (path : Text)
  /-- A directory that cannot be read. -/
  | unreadable (path reason : Text)
  deriving DecidableEq, Repr

/-- A tree of files as far as patterns look at it. -/
structure FileTree where
  /-- Does a path lead to anything? -/
  pathExists : Text → Bool
  /-- The names in a directory, or why they cannot be read, if a path leads to one. -/
  entries : Text → Option (Except Text (List Text))

namespace Glob

/-- Is the path the directory that paths begin in? -/
def isHere (path : Text) : Bool := Path.components path = [.current]

/-- The path of a name in a directory, which is not written where paths begin in it. -/
def below (directory name : Text) : Text :=
  if isHere directory then name else Path.join directory name

/-- Names that every directory has. -/
def special : List Text := [['.'], ['.', '.']]

/-- The special names that a pattern fits; it has to begin with a point itself. -/
def specialFits (pattern : Pattern) : List Text :=
  if pattern.head? = some (.char '.') then special.filter pattern.fits else []

namespace Walk

variable (tree : FileTree) (directories : Bool)

/-- Does a path lead to a directory? -/
def isDirectory (path : Text) : Bool := (tree.entries path).isSome

/-- A path at which the pattern ends, unless it asks for a directory and this is none. -/
def arrive (path : Text) : List Finding :=
  if directories && !isDirectory tree path then [] else [.path path]

/-- What is found for each name in a directory. -/
def each (directory : Text) (visit : Text → List Finding) : List Finding :=
  match tree.entries directory with
  | none => []
  | some (.error reason) => [.unreadable directory reason]
  | some (.ok names) => names.flatMap visit

/-- What parts of a pattern lead to from a directory, at a depth of a number of steps at most. -/
def findings : Nat → List Part → Text → List Finding
  | 0, _, _ | _, [], _ => []
  | fuel + 1, part :: rest, directory =>
    -- What is left of the pattern is looked for behind a path.
    let onward (path : Text) (rest : List Part) : List Finding :=
      if rest.isEmpty then arrive tree directories path else Walk.findings fuel rest path
    match part with
    | .anyDepth =>
      each tree directory fun name =>
        let path := below directory name
        let inside :=
          if isDirectory tree path then Walk.findings fuel (.anyDepth :: rest) path else []
        match rest with
        | [] => if isDirectory tree path then .path path :: inside else inside
        | .name pattern :: more =>
          -- What lies further inside comes first.
          if pattern.fits name then inside ++ onward path more else inside
        | .anyDepth :: _ => inside
    | .name pattern =>
      match pattern.literal? with
      | some name =>
        let path := below directory name
        -- The special names lead somewhere from directories only.
        if (if name ∈ special then isDirectory tree directory else tree.pathExists path) then
          onward path rest
        else []
      | none =>
        each tree directory (fun name =>
          if pattern.fits name then onward (below directory name) rest else []) ++
        if isDirectory tree directory then
          (specialFits pattern).flatMap fun name => onward (Path.join directory name) rest
        else []

end Walk

/-- Neighbouring parts for any depth as one. -/
def joinDepths : List Part → List Part
  | .anyDepth :: rest =>
    match joinDepths rest with
    | .anyDepth :: more => .anyDepth :: more
    | more => .anyDepth :: more
  | part :: rest => part :: joinDepths rest
  | [] => []

/-- The number of components that a path can have. -/
def depth : Nat := 2048

/-- The paths that a pattern fits. -/
def expand (tree : FileTree) (text : Text) : Except GlobError (List Finding) := do
  -- The positions in errors are those of the whole pattern, not of a part.
  let _ ← read text
  let absolute := Path.isAbsolute text
  let parts ← (components (if absolute then text.drop 1 else text)).mapM readPart
  let start := if absolute then ['/'] else ['.']
  return Walk.findings tree (text.getLast? = some '/') depth (joinDepths parts) start

end Glob

end TaggedTests
