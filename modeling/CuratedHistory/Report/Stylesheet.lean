import CuratedHistory.Text.Basic

namespace CuratedHistory

/-! The style that every report carries with it. -/

/-- A rule of the style: what it applies to, and its declarations. -/
def styleRule (selector declarations : String) : Text :=
  selector.toList ++ " \x7b ".toList ++ declarations.toList ++ " \x7d".toList

def stylesheet : Text :=
  unlines [
    styleRule "body"
      "font-family: -apple-system, 'Segoe UI', Helvetica, Arial, sans-serif; margin: 2em; color: #1f2328;",
    styleRule "header h1" "margin-bottom: 0.2em;",
    styleRule "code, pre"
      "font-family: 'SFMono-Regular', Menlo, Consolas, monospace; font-size: 0.85em;",
    styleRule "nav.toc" "border: 1px solid #d0d7de; padding: 0.5em 1.5em; margin: 1.5em 0;",
    styleRule "section.block"
      "border-top: 2px solid #d0d7de; padding-top: 1em; margin-top: 2em; page-break-inside: auto;",
    styleRule ".commit-header h3" "margin: 0.5em 0 0.2em;",
    styleRule ".commit-header .meta" "color: #59636e; margin: 0;",
    styleRule "pre.message" "white-space: pre-wrap; background: #f6f8fa; padding: 0.5em;",
    styleRule "pre.diff"
      "background: #f6f8fa; padding: 0.5em; overflow-x: auto; white-space: pre-wrap;",
    styleRule ".diff-meta" "font-weight: bold;",
    styleRule ".diff-hunk" "color: #0550ae;",
    styleRule ".diff-add" "color: #116329; background: #dafbe1;",
    styleRule ".diff-del" "color: #82071e; background: #ffebe9;",
    styleRule ".notice" "font-style: italic; color: #59636e;",
    styleRule ".notice.failure" "color: #9a6700;",
    styleRule ".notice.dropped, .notice.scope"
      "border-left: 4px solid #d4a72c; padding-left: 0.5em;",
    styleRule ".bundle-begin, .bundle-end" "background: #ddf4ff; padding: 0.5em;",
    styleRule "article.bundle-member"
      "margin-left: 1em; border-left: 2px solid #54aeff; padding-left: 1em;",
    styleRule ".section-label" "font-weight: bold; color: #0550ae;",
    styleRule ".plan-note" "font-style: italic; color: #59636e; margin: 0.25em 0;"]

end CuratedHistory
