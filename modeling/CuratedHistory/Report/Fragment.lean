import CuratedHistory.Report.Markup
import CuratedHistory.Report.Outline

namespace CuratedHistory

/-! Each block becomes one section of the report. A diff that is not available, or
that cannot be turned into HTML, leaves a note in its place, and all else stays as
it is. -/

/-- Where commits and diffs come from. -/
structure History where
  commit? : CommitLookup
  diff? : DiffBase → Text → Option Patch

structure Fragment where
  anchor : Text
  kind : BlockKind
  title : Text
  html : Text
  /-- How many notes stand in place of something that is not available. -/
  fallbacks : Nat
  deriving DecidableEq, Repr

/-- Markup and the number of notes in it. -/
structure Body where
  nodes : List Html
  fallbacks : Nat
  deriving Repr

namespace Body

def append (first second : Body) : Body :=
  ⟨first.nodes ++ second.nodes, first.fallbacks + second.fallbacks⟩

def concat (bodies : List Body) : Body :=
  ⟨bodies.flatMap Body.nodes, bodies.foldr (fun body total => body.fallbacks + total) 0⟩

def html (nodes : List Html) : Body :=
  ⟨nodes ++ [Html.newline], 0⟩

def failure (note : Text) : Body :=
  ⟨[Html.classed "p" "notice failure" [.text note], Html.newline], 1⟩

end Body

namespace Fragment

/-- The markup of a diff with its counts, if there is one. -/
def diffNodes? (history : History) (markup : Markup) (base : DiffBase) (child : Text) :
    Option (List Html) :=
  match history.diff? base child with
  | none => none
  | some patch =>
      if patch.isEmpty then some [Html.classed "p" "notice" [Html.string "No file changes."]]
      else
        match markup.convertPatch patch with
        | .error _ => none
        | .ok body =>
            some [Html.classed "p" "stat" [.text patch.shortStat], Html.newline, body]

def diffBody (history : History) (markup : Markup) (base : DiffBase) (child : Text) :
    Option Body :=
  match diffNodes? history markup base child with
  | some nodes => some (.html nodes)
  | none => do
      let short ← shortHash? child
      return .failure ("The diff for ".toList ++ short ++ " could not be rendered.".toList)

def partBody (history : History) (markup : Markup) : Part → Option Body
  | .html nodes => some (.html nodes)
  | .failure note => some (.failure note)
  | .diff base child => diffBody history markup base child

def partsBody (history : History) (markup : Markup) (parts : List Part) : Option Body := do
  return .concat (← parts.mapM (partBody history markup))

def entryBody (history : History) (markup : Markup) : Entry → Option Body
  | .line part => partBody history markup part
  | .member parts => do
      let body ← partsBody history markup parts
      return ⟨[Html.classed "article" "bundle-member" (Html.newline :: body.nodes),
        Html.newline], body.fallbacks⟩

def kindClass : BlockKind → String
  | .single => "block single"
  | .dropped => "block dropped"
  | .squashRun => "block squash-run"
  | .bundleRun => "block bundle-run"

def anchorOf (index : Nat) : Text :=
  "block-".toList ++ Decimal.digits index

def sectionHtml (kind : BlockKind) (anchor : Text) (nodes : List Html) : Html :=
  .element "section".toList
    [("class".toList, (kindClass kind).toList), ("id".toList, anchor)] (Html.newline :: nodes)

def ofBlock? (history : History) (markup : Markup) (index : Nat) (block : Block) :
    Option Fragment := do
  let outline ← block.outline? history.commit?
  let body := Body.concat (← outline.entries.mapM (entryBody history markup))
  return {
    anchor := anchorOf index
    kind := block.kind
    title := outline.title
    html := Html.renderAll [sectionHtml block.kind (anchorOf index) body.nodes, Html.newline]
    fallbacks := body.fallbacks }

/-- The fragments of blocks that are numbered from the given number. -/
def ofBlocksFrom? (history : History) (markup : Markup) (index : Nat) :
    List Block → Option (List Fragment)
  | [] => some []
  | block :: rest => do
      let fragment ← ofBlock? history markup index block
      let following ← ofBlocksFrom? history markup (index + 1) rest
      return fragment :: following

/-- The fragments of a report, numbered from one. There are none when a hash that
one of them shows cannot be abbreviated. -/
def ofBlocks? (history : History) (markup : Markup) (blocks : List Block) :
    Option (List Fragment) :=
  ofBlocksFrom? history markup 1 blocks

end Fragment

end CuratedHistory
