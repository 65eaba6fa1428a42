import ThemedPage.Mode

/-!
# Log Entries

What happens to a live page is told in a log. An entry is a value of its own and carries
what it reports, so that laws can be stated about the log; its level, its wording and the
fields shown beside the wording are functions of it.
-/

namespace ThemedPage

/-- A **log entry**. -/
inductive LogEntry where
  /-- An observer is about to be given its changes. -/
  | delivering (observer changes : Nat)
  /-- The source of an image is about to be changed. -/
  | restyling (image : Nat) (source : String)
  /-- The images of a page have been brought in step with its theme. -/
  | initialized (theme : String) (mode : Mode) (captured restyled : Nat)
  /-- Changes were delivered that left the theme as it was. -/
  | unchanged (changes : Nat) (theme : String)
  /-- The images have been brought in step with another theme. -/
  | changed (before after : String) (mode : Mode) (restyled : Nat)
  deriving DecidableEq

namespace LogEntry

/-- The value of a field that is shown beside an entry. -/
inductive FieldValue where
  /-- A number. -/
  | number (n : Nat)
  /-- A text. -/
  | text (s : String)

/-- How much an entry matters. -/
def level : LogEntry → String
  | delivering _ _ => "TRACE"
  | restyling _ _ => "TRACE"
  | initialized _ _ _ _ => "DEBUG"
  | unchanged _ _ => "TRACE"
  | changed _ _ _ _ => "DEBUG"

/-- The wording of an entry. -/
def message : LogEntry → String
  | delivering _ _ => "delivering mutations"
  | restyling _ _ => "rewriting image source"
  | initialized _ _ _ _ => "theme images initialized"
  | unchanged _ _ => "theme unchanged"
  | changed _ _ _ _ => "theme changed"

/-- The fields shown beside the wording. -/
def fields : LogEntry → List (String × FieldValue)
  | delivering observer changes => [("observer", .number observer), ("records", .number changes)]
  | restyling image source => [("image", .number image), ("src", .text source)]
  | initialized theme mode captured restyled =>
    [("theme", .text theme), ("mode", .text mode.word), ("captured", .number captured),
     ("rewritten", .number restyled)]
  | unchanged changes theme => [("records", .number changes), ("theme", .text theme)]
  | changed before after mode restyled =>
    [("from", .text before), ("to", .text after), ("mode", .text mode.word),
     ("rewritten", .number restyled)]

end LogEntry

end ThemedPage
