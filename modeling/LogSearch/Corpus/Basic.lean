import LogSearch.Record

/-!
# Corpora

A corpus is the list of records that a search looks at. A record is known by its position, so two
equal records are still two.

The training corpus is a day of authentication logs: a normal morning, a burst of failed logins for
`john` from one host, administration after hours from the same host, and the next morning.
-/

namespace LogSearch

/-- The items with one more after them, unless it is among them. -/
def addNew {α : Type} [DecidableEq α] (items : List α) (item : α) : List α :=
  if item ∈ items then items else items ++ [item]

/-- An ordered collection of records. -/
structure Corpus where
  records : List Record
deriving DecidableEq, Repr

namespace Corpus

/-- The number of records. -/
def size (corpus : Corpus) : Nat :=
  corpus.records.length

/-- Whether there are no records. -/
def isEmpty (corpus : Corpus) : Bool :=
  corpus.records.isEmpty

/-- The record at a position. -/
def record? (corpus : Corpus) (position : Nat) : Option Record :=
  corpus.records[position]?

/-- The names of all fields, each once, in the order in which they are first seen. -/
def fieldNames (corpus : Corpus) : List String :=
  corpus.records.foldl (fun seen record => record.names.foldl addNew seen) []

/-! ## The training corpus -/

/-- A log record. Only some actions concern a path. -/
def event (timestamp level user action status ip : String) (hour : Int64)
    (path : Option String) : Record :=
  .ofList <|
    [("timestamp", .text timestamp), ("level", .text level), ("user", .text user),
      ("action", .text action), ("status", .text status), ("ip", .text ip), ("hour", .int hour)]
    ++ (path.map fun path => ("path", .text path)).toList

/-- The records that are searched when no others are given. -/
def training : Corpus where
  records := [
    event "2024-01-15 08:59:50" "WARN" "sarah" "login" "failed" "192.168.1.51" 8 none,
    event "2024-01-15 09:00:15" "INFO" "sarah" "login" "success" "192.168.1.51" 9 none,
    event "2024-01-15 09:15:00" "INFO" "sarah" "file_access" "success" "192.168.1.51" 9 none,
    event "2024-01-15 09:30:00" "INFO" "mike" "login" "success" "192.168.1.52" 9 none,
    event "2024-01-15 10:45:01" "WARN" "john" "login" "failed" "10.0.50.99" 10 none,
    event "2024-01-15 10:45:05" "WARN" "john" "login" "failed" "10.0.50.99" 10 none,
    event "2024-01-15 10:45:10" "WARN" "john" "login" "failed" "10.0.50.99" 10 none,
    event "2024-01-15 10:45:15" "WARN" "john" "login" "failed" "10.0.50.99" 10 none,
    event "2024-01-15 10:45:20" "WARN" "john" "login" "failed" "10.0.50.99" 10 none,
    event "2024-01-15 10:45:25" "WARN" "john" "login" "success" "10.0.50.99" 10 none,
    event "2024-01-15 11:00:00" "INFO" "sarah" "logout" "success" "192.168.1.51" 11 none,
    event "2024-01-15 14:00:00" "INFO" "admin" "config_change" "success" "192.168.1.100" 14 none,
    event "2024-01-15 23:15:00" "INFO" "admin" "login" "success" "10.0.50.99" 23
      (some "/admin/panel"),
    event "2024-01-15 23:20:00" "INFO" "admin" "file_access" "success" "10.0.50.99" 23
      (some "/admin/users"),
    event "2024-01-16 02:30:00" "WARN" "unknown" "scan" "blocked" "10.0.50.99" 2
      (some "/admin/config"),
    event "2024-01-16 03:17:00" "ERROR" "svc_backup" "database_access" "success" "10.0.50.99" 3
      (some "/admin/db"),
    event "2024-01-16 09:00:00" "INFO" "mike" "login" "success" "192.168.1.52" 9 none,
    event "2024-01-16 09:30:00" "INFO" "sarah" "login" "success" "192.168.1.51" 9 none]

end Corpus

end LogSearch
