import CuratedHistory.Text.Basic

namespace CuratedHistory

/-! What a plan line does with its commit: show it with its own diff, leave its
diff out behind a notice, fold it into one diff with its neighbours, or group it
under a section. -/

inductive Action where
  | pick
  | drop
  | squash
  | bundle
  deriving DecidableEq, Repr

namespace Action

def all : List Action := [.pick, .drop, .squash, .bundle]

def keyword : Action → Text
  | .pick => "pick".toList
  | .drop => "drop".toList
  | .squash => "squash".toList
  | .bundle => "bundle".toList

def letter : Action → Text
  | .pick => "p".toList
  | .drop => "d".toList
  | .squash => "s".toList
  | .bundle => "b".toList

/-- Whether a label may follow the hash: a reason or a section. -/
def takesLabel : Action → Bool
  | .drop | .bundle => true
  | .pick | .squash => false

/-- The action that a keyword, in full or short, names, in any case of its letters. -/
def named? (word : Text) : Option Action :=
  all.find? fun action => Text.lower word == action.keyword || Text.lower word == action.letter

end Action

end CuratedHistory
