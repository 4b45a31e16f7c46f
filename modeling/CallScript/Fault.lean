import CallScript.Text.Quoted
import CallScript.Value

/-! Failures of the primitive operations, each named for its cause. `Fault.kind` sorts the causes,
`Fault.message` words them. -/
namespace CallScript

inductive FaultKind where
  | typeMismatch
  | badValue
  | zeroDivision
  | overflow
  | outOfMemory
  | missingKey
  | missingIndex
  | missingAttribute
  | badPattern
  | crash
  | nesting
  | fileMissing
  | isDirectory
  | notDirectory
  | fileSystem
  | undecodable
  | validation
  deriving DecidableEq, Repr

inductive Fault where
  | operands (op : String) (left right : ValueType)
  | negation (operand : ValueType)
  | comparison (op : String) (left right : ValueType)
  | concatenation (left right : ValueType)
  | repetition (count : ValueType)
  | repetitionCount
  | repeatedText
  | outOfMemory
  | division (text : String)
  | integerTooLarge
  | quotientTooLarge
  | powerTooLarge
  | complexPowerTooLarge
  | digitLimit
  | digitLimitReading (digits : Nat)
  | nullCharacter
  | unterminatedLiteral (line : Nat)
  | literalEscape (first last : Nat) (reason : String) (lines : Nat)
  | integerText (s : String)
  | floatText (s : String)
  | integerFrom (type : ValueType)
  | floatFrom (type : ValueType)
  | undefinedToInteger
  | infiniteToInteger
  | format (text : String)
  | formatValue (text : String)
  | formatOverflow (text : String)
  | missingKey (shown : String)
  | unhashable (type : ValueType)
  | missingIndex (container : ValueType)
  | missingAttribute (field : String)
  | notCallable
  | notText (type : ValueType)
  | pattern (reason : String) (position : Option Nat) (place : Option (Nat × Nat))
  | repetitionNumber
  | codePoint
  | crash (message : String)
  | environmentFrom (shown : String)
  | unknownNode (type : ValueType)
  | unknownOperator (op : String)
  | unknownLevel (level : String)
  | emptyStack
  | nesting
  | fileMissing (path : String)
  | isDirectory (path : String)
  | notDirectory (path : String)
  | nameTooLong (path : String)
  | undecodable (byte first last : Nat) (reason : String)
  | nullInPath
  | arguments (text : String)
  deriving DecidableEq, Repr

def Fault.kind : Fault → FaultKind
  | .operands .. | .negation _ | .comparison .. | .concatenation .. | .repetition _ => .typeMismatch
  | .integerFrom _ | .floatFrom _ | .format _ | .notCallable | .notText _ => .typeMismatch
  | .environmentFrom _ | .unknownNode _ | .arguments _ | .unhashable _ => .typeMismatch
  | .repetitionCount | .repeatedText | .integerTooLarge | .quotientTooLarge => .overflow
  | .repetitionNumber | .codePoint | .powerTooLarge | .complexPowerTooLarge | .infiniteToInteger | .formatOverflow _ => .overflow
  | .outOfMemory => .outOfMemory
  | .division _ => .zeroDivision
  | .digitLimit | .digitLimitReading _ | .integerText _ | .floatText _ => .badValue
  | .nullCharacter | .nullInPath | .unterminatedLiteral _ | .literalEscape .. => .badValue
  | .undefinedToInteger | .formatValue _ | .unknownLevel _ => .badValue
  | .missingKey _ | .unknownOperator _ => .missingKey
  | .missingIndex _ | .emptyStack => .missingIndex
  | .missingAttribute _ => .missingAttribute
  | .pattern .. => .badPattern
  | .crash _ => .crash
  | .nesting => .nesting
  | .fileMissing _ => .fileMissing
  | .isDirectory _ => .isDirectory
  | .notDirectory _ => .notDirectory
  | .nameTooLong _ => .fileSystem
  | .undecodable .. => .undecodable

def shownDigits : Nat := 200

def digitLimitText : String :=
  "Exceeds the limit (4300 digits) for integer string conversion"

def digitLimitAdvice : String :=
  "; use sys.set_int_max_str_digits() to increase the limit"

def byteText (byte : Nat) : String :=
  String.ofList (Text.padStart 2 '0' (Text.hexDigits byte))

def Fault.message : Fault → String
  | .operands op left right =>
      "unsupported operand type(s) for " ++ op ++ ": '" ++ left.name ++ "' and '" ++ right.name ++ "'"
  | .negation operand => "bad operand type for unary -: '" ++ operand.name ++ "'"
  | .comparison op left right =>
      "'" ++ op ++ "' not supported between instances of '" ++ left.name ++ "' and '" ++ right.name ++ "'"
  | .concatenation left right =>
      "can only concatenate " ++ left.name ++ " (not \"" ++ right.name ++ "\") to " ++ left.name
  | .repetition count => "can't multiply sequence by non-int of type '" ++ count.name ++ "'"
  | .repetitionCount => "cannot fit 'int' into an index-sized integer"
  | .repeatedText => "repeated string is too long"
  | .outOfMemory => ""
  | .division text => text
  | .integerTooLarge => "int too large to convert to float"
  | .quotientTooLarge => "integer division result too large for a float"
  | .powerTooLarge => "(34, 'Numerical result out of range')"
  | .complexPowerTooLarge => "complex exponentiation"
  | .digitLimit => digitLimitText ++ digitLimitAdvice
  | .digitLimitReading digits =>
      digitLimitText ++ ": value has " ++ toString digits ++ " digits" ++ digitLimitAdvice
  | .nullCharacter => "source code string cannot contain null bytes"
  | .unterminatedLiteral line =>
      "unterminated string literal (detected at line " ++ toString line ++ ") (<unknown>, line 1)"
  | .literalEscape first last reason lines =>
      "(unicode error) 'unicodeescape' codec can't decode bytes in position " ++ toString first ++ "-" ++
        toString last ++ ": " ++ reason ++ " (<unknown>, line " ++ toString lines ++ ")"
  | .integerText s =>
      "invalid literal for int() with base 10: " ++ String.ofList ((Text.quoted s).toList.take shownDigits)
  | .floatText s => "could not convert string to float: " ++ Text.quoted s
  | .integerFrom type =>
      "int() argument must be a string, a bytes-like object or a real number, not '" ++ type.name ++ "'"
  | .floatFrom type => "float() argument must be a string or a real number, not '" ++ type.name ++ "'"
  | .undefinedToInteger => "cannot convert float NaN to integer"
  | .infiniteToInteger => "cannot convert float infinity to integer"
  | .format text => text
  | .formatValue text => text
  | .formatOverflow text => text
  | .missingKey shown => shown
  | .unhashable type => "unhashable type: '" ++ type.name ++ "'"
  | .missingIndex container => container.name ++ " index out of range"
  | .missingAttribute field => "'NoneType' object has no attribute '" ++ field ++ "'"
  | .notCallable => "'NoneType' object is not callable"
  | .notText type => "expected string or bytes-like object, got '" ++ type.name ++ "'"
  | .pattern reason position place =>
      reason ++
        (match position with
          | some n => " at position " ++ toString n
          | none => "") ++
        (match place with
          | some (line, column) => " (line " ++ toString line ++ ", column " ++ toString column ++ ")"
          | none => "")
  | .repetitionNumber => "the repetition number is too large"
  | .codePoint => "Python int too large to convert to C int"
  | .crash message => message
  | .environmentFrom shown => "Cannot use " ++ shown ++ " as an environment"
  | .unknownNode type => "Unknown node <class '" ++ type.name ++ "'>"
  | .unknownOperator op => Text.quoted op
  | .unknownLevel level => "Unknown log level '" ++ level ++ "'"
  | .emptyStack => "pop from empty list"
  | .nesting => "maximum recursion depth exceeded"
  | .fileMissing path => "[Errno 2] No such file or directory: " ++ Text.quoted path
  | .isDirectory path => "[Errno 21] Is a directory: " ++ Text.quoted path
  | .notDirectory path => "[Errno 20] Not a directory: " ++ Text.quoted path
  | .nameTooLong path => "[Errno 36] File name too long: " ++ Text.quoted path
  | .undecodable byte first last reason =>
      "'utf-8' codec can't decode " ++
        (if first == last then "byte 0x" ++ byteText byte ++ " in position " ++ toString first
         else "bytes in position " ++ toString first ++ "-" ++ toString last) ++ ": " ++ reason
  | .nullInPath => "embedded null byte"
  | .arguments text => text

end CallScript
