import Parametric.Text.Quoted

/-! # The journal: levelled messages, and the lines that a listener on some level gets -/
namespace Parametric

structure Entry where
  level : Int
  channel : Text
  message : Text

namespace Journal

def debug : Int := 10
def info : Int := 20
def warning : Int := 30
def error : Int := 40

/-- The first name of a level is the one that is shown. -/
def levelNames : List (Text × Int) :=
  [("CRITICAL", 50), ("FATAL", 50), ("ERROR", 40), ("WARNING", 30), ("WARN", 30), ("INFO", 20),
    ("DEBUG", 10), ("NOTSET", 0)]

/-- Two letters outside ASCII have a capital inside it. -/
def capital (c : Char) : Char :=
  if c == 'ı' then 'I' else if c == 'ſ' then 'S' else c.toUpper

def levelNamed? (name : Text) : Option Int :=
  (levelNames.find? fun n => n.1 == name.map capital).map (·.2)

def unknownLevel (name : Text) : Text := "Unknown logging level name: " ++ name.quoted

def levelText (level : Int) : Text :=
  match levelNames.find? fun n => n.2 == level with
  | some n => n.1
  | none => "Level " ++ Text.ofInt level

/-- Five characters, cut or filled up with blanks. -/
def levelField (level : Int) : Text :=
  let t := (levelText level).take 5
  t ++ List.replicate (5 - t.length) ' '

def line (e : Entry) : Text :=
  "[" ++ levelField e.level ++ "] [" ++ e.channel ++ "] " ++ e.message

/-- The entry with which a listener on `level` begins. -/
def opening (level : Int) : Entry where
  level := debug
  channel := "formula_guard.log_config"
  message := "Logging configured at level " ++ levelText level ++ "."

/-- The lines for a listener on `level`; a message may take several. -/
def lines (level : Int) (entries : List Entry) : List Text :=
  ((opening level :: entries).filter (level ≤ ·.level)).flatMap
    fun e => (line e).cutBy (· == '\n')

end Journal

end Parametric
