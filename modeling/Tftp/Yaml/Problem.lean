import Tftp.Text.Codes

/-!
# Problems of a configuration file

Most files that cannot be read are refused as a whole. A few numbers, times and words have a form
that is accepted and a value that is not; these are told apart.
-/

namespace Tftp.Yaml

/-- Why a file is refused or cannot be given a value. -/
inductive Problem where
  /-- the text is not well formed or has no value -/
  | refused
  /-- a number or a time that is out of range -/
  | badNumber
  /-- a word that is given as a truth value and is none -/
  | badTruth (word : Codes)
  /-- a number without a character -/
  | emptyNumber
  /-- a text that is given as a time and is none -/
  | badTime
  /-- a mapping that is given as a time -/
  | notText
  /-- a number that is far out of range -/
  | tooLarge
  /-- nodes too deep in one another, as in a scalar that stands for itself -/
  | tooDeep
  deriving DecidableEq, Repr, Inhabited

end Tftp.Yaml
