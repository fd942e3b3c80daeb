import GeoScript.Data.Json
import GeoScript.Event
import GeoScript.Profile.Basic

/-! # Logged events

The events that a log style wants to see, each as one line. -/

namespace GeoScript

/-- Whether a log style shows events of some importance. -/
def LogStyle.shows : LogStyle → Level → Bool
  | .development, .trace => false
  | .development, _ => true
  | .production, .trace | .production, .debug => false
  | .production, _ => true
  | .test, _ => false

namespace Event

/-- An event for people. -/
def plainLine (e : Event) : String :=
  String.join (e.level.name :: e.fields.map fun (name, text) => " " ++ name ++ "=" ++ text)

/-- An event for programs. -/
def jsonLine (e : Event) : String :=
  (Data.record
    [("level", .text e.level.name),
      ("fields", .record (e.fields.map fun (name, text) => (name, .text text)))]).jsonText

end Event

/-- The lines of a log in some style. -/
def Log.lines (log : Log) (style : LogStyle) : List String :=
  (log.filter fun e => style.shows e.level).map
    (if style = .production then Event.jsonLine else Event.plainLine)

end GeoScript
