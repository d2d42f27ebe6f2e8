import RpcBindings.Data.Calendar
import RpcBindings.Text.Quoted

namespace RpcBindings.Yaml

open RpcBindings.Data

inductive Fault where
  | malformed
  | badInteger (base : Nat) (text : String)
  | tooManyDigits (count : Nat)
  | badFloat (text : String)
  | badTruth (word : String)
  | emptyNumber
  | badTimestamp
  | badCalendar (fault : CalendarFault)
  | badCharacter (code : Nat)
deriving DecidableEq, Repr

namespace Fault

def message : Fault → String
  | malformed => "<YAML error>"
  | badInteger base text =>
    "invalid literal for int() with base " ++ toString base ++ ": "
      ++ String.ofList ((Text.quoted text).toList.take 200)
  | tooManyDigits n => "Exceeds the limit (4300 digits) for integer string conversion: value has "
      ++ toString n ++ " digits; use sys.set_int_max_str_digits() to increase the limit"
  | badFloat text => "could not convert string to float: " ++ Text.quoted text
  | badTruth word => Text.quoted word
  | emptyNumber => "string index out of range"
  | badTimestamp => "'NoneType' object has no attribute 'groupdict'"
  | badCalendar fault => fault.message
  | badCharacter code =>
    if code < Nat.pow 2 31 then "chr() arg not in range(0x110000)"
    else "Python int too large to convert to C int"

def label : Fault → String
  | malformed | badInteger .. | tooManyDigits _ | badFloat _ | badCalendar _ => "ValueError"
  | badTruth _ => "KeyError"
  | emptyNumber => "IndexError"
  | badTimestamp => "AttributeError"
  | badCharacter code => if code < Nat.pow 2 31 then "ValueError" else "OverflowError"

end Fault

end RpcBindings.Yaml
