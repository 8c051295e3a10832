import MonitorWire.Error
import MonitorWire.Redact.Mask
import MonitorWire.Regex.Machine

namespace MonitorWire

structure RedactRule where
  field : String
  matcher : Regex.Compiled
  exclude : Option Regex.Compiled := none

namespace RedactRule

def new (field pattern : String) : Except ProtocolError RedactRule :=
  let full := "\"" ++ Regex.escapePattern field ++ "\":\\s*\"(" ++ pattern ++ ")"
  match Regex.compileText full with
  | .ok r => .ok ⟨field, r, none⟩
  | .error e => .error (.configError ("Invalid redaction pattern for '" ++ field ++ "': " ++ e))

def excluding (rule : RedactRule) (pattern : String) : Except ProtocolError RedactRule :=
  match Regex.compileText pattern with
  | .ok r => .ok { rule with exclude := some r }
  | .error e =>
    .error (.configError ("Invalid exclusion pattern for '" ++ rule.field ++ "': " ++ e))

def apply (rule : RedactRule) (message : String) (visible : Nat) : String :=
  rule.matcher.replaceAll message fun cs slots =>
    let slice := fun (a b : Nat) => String.ofList ((cs.toList.drop a).take (b - a))
    match Regex.groupSpan slots 0, Regex.groupSpan slots 1 with
    | some (ws, we), some (vs, ve) =>
      let skip := match rule.exclude with
        | some ex => ex.isMatch (slice vs cs.size)
        | none => false
      if skip then slice ws we else slice ws vs ++ maskSecret (slice vs ve) visible
    | some (ws, we), none => slice ws we
    | none, _ => ""

end RedactRule

structure Redactor where
  rules : List RedactRule
  visible : Nat

namespace Redactor

def defaultVisible : Nat := 4

def alnumValue : String := "[A-Za-z0-9]+"

def passwordValue : String := "[^'\"]+"

def resultExclude : String := "^(?:zabbix_export|[0-9.]{5})"

def defaultRules : List RedactRule :=
  let build := fun (field pattern : String) => (RedactRule.new field pattern).toOption.toList
  build "token" alnumValue ++ build "auth" alnumValue ++ build "sessionid" alnumValue ++
    build "password" passwordValue ++
    ((RedactRule.new "result" alnumValue).toOption.bind
      (fun r => (r.excluding resultExclude).toOption)).toList

def default : Redactor := ⟨defaultRules, defaultVisible⟩

def new (rules : List RedactRule) : Redactor := ⟨rules, defaultVisible⟩

def withRule (r : Redactor) (rule : RedactRule) : Redactor :=
  { r with rules := r.rules.filter (fun x => x.field != rule.field) ++ [rule] }

def withVisible (r : Redactor) (visible : Nat) : Redactor := { r with visible := visible }

def redact (r : Redactor) (message : String) : String :=
  r.rules.foldl (fun acc rule => rule.apply acc r.visible) message

end Redactor

end MonitorWire
