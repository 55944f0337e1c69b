import CuratedHistory.Report.Fragment
import CuratedHistory.Report.Stylesheet

namespace CuratedHistory

/-! A report: fragments, notices and the range in one HTML document that needs no
other file. -/

structure Report where
  title : Text
  base : ShownHash
  tip : ShownHash
  fragments : List Fragment
  notices : List Text
  generated : Instant
  deriving DecidableEq, Repr

namespace Report

def addNotice (report : Report) (notice : Text) : Report :=
  { report with notices := report.notices ++ [notice] }

def headNodes (report : Report) : List Html :=
  [Html.newline, .markup "<meta charset=\"utf-8\">".toList, Html.newline,
    Html.plain "title" [.text report.title], Html.newline,
    Html.plain "style" [Html.newline, .markup stylesheet], Html.newline]

/-- One end of the range, with the full hash behind the short one. -/
def rangeEnd (commit : ShownHash) : Html :=
  .element "code".toList [("title".toList, commit.hash)] [.markup commit.short]

def headerNodes (report : Report) : List Html :=
  [Html.newline, Html.plain "h1" [.text report.title], Html.newline,
    Html.classed "p" "range" [
      Html.string "Commits after ", rangeEnd report.base, Html.string " up to ",
      rangeEnd report.tip, Html.string " ", .markup "&middot;".toList,
      .text (' ' :: Decimal.digits report.fragments.length ++ " blocks ".toList),
      .markup "&middot;".toList,
      .text (" generated ".toList ++ report.generated.minuteText)],
    Html.newline]

def noticeNode (notice : Text) : Html :=
  Html.classed "p" "notice" [.text notice]

def noticeNodes (notices : List Text) : List Html :=
  if notices = [] then []
  else
    [Html.classed "div" "notices" (Html.newline :: Html.lines (notices.map noticeNode)),
      Html.newline]

def contentsEntry (fragment : Fragment) : Html :=
  Html.plain "li"
    [.element "a".toList [("href".toList, '#' :: fragment.anchor)] [.text fragment.title]]

def contentsNodes (fragments : List Fragment) : List Html :=
  [Html.classed "nav" "toc" [
      Html.newline, Html.plain "h2" [Html.string "Contents"], Html.newline,
      Html.plain "ol" (Html.newline :: Html.lines (fragments.map contentsEntry)),
      Html.newline],
    Html.newline]

def fragmentNodes (fragments : List Fragment) : List Html :=
  [Html.plain "main" (Html.newline :: fragments.map fun fragment => .markup fragment.html),
    Html.newline]

def mainNodes (fragments : List Fragment) : List Html :=
  if fragments = [] then
    [Html.classed "p" "notice" [Html.string "No commits were selected."], Html.newline]
  else contentsNodes fragments ++ fragmentNodes fragments

def documentNodes (report : Report) : List Html :=
  [.markup "<!DOCTYPE html>".toList, Html.newline,
    .element "html".toList [("lang".toList, "en".toList)] [
      Html.newline, Html.plain "head" report.headNodes, Html.newline,
      Html.plain "body" (
        [Html.newline, Html.plain "header" report.headerNodes, Html.newline] ++
          noticeNodes report.notices ++ mainNodes report.fragments),
      Html.newline],
    Html.newline]

def html (report : Report) : Text :=
  Html.renderAll report.documentNodes

end Report

end CuratedHistory
