import Gowaves.Ride.Values

/-!
# Common native functions (`pkg/ride/functions_common.go`)

The natives every library version has under the same names: equality `0` (`eq`), `!=`
(`neq`), and the two `throw`s, `2` with a message and `throw` without.  They live in the namespace
`Natives`, so that their Go names do not clash with the evaluator's own.  A native takes its
evaluated arguments and returns a value or an error; the environment argument of the Go
functions is unused by these four.
-/

set_option autoImplicit false

namespace Gowaves.Ride

namespace Natives

/-- `rideFunction`, without its unused environment. -/
abbrev RideFunction := List RideType → Except EvalError RideType

def defaultThrowMessage : GoString := ascii "Explicit script termination"

/-- `checkArgs`: the number of arguments (no argument of the model is `nil`). -/
def checkArgs (args : List RideType) (count : Nat) : Except GoString Unit :=
  if args.length ≠ count then
    .error (ascii (toString args.length) ++ ascii " is invalid number of arguments, expected " ++
      ascii (toString count))
  else .ok ()

/-- `errors.Wrap(err, name)` of a plain error. -/
def wrapPlain (name : String) (err : GoString) : EvalError := .plain (ascii name ++ ascii ": " ++ err)

/-- The comparison shared by `eq` and `neq`: two arguments, compared by Go's `eq`. -/
def compareWith (name : String) (f : Bool → Bool) (args : List RideType) :
    Except EvalError RideType :=
  match checkArgs args 2, args with
  | .ok (), [a, b] => .ok (.rideBoolean (f (a.eq b)))
  | .error e, _ => .error (wrapPlain name e)
  | .ok (), _ => .error (wrapPlain name [])

def eq : RideFunction := compareWith "eq" id

def neq : RideFunction := compareWith "neq" (!·)

def stringArg (args : List RideType) : Except GoString GoString :=
  match args with
  | [.rideString s] => .ok s
  | [a] => .error (ascii "argument 1 is not of type 'String' but '" ++ a.instanceOf ++ ascii "'")
  | _ => .error (ascii (toString args.length) ++ ascii " is invalid number of arguments, expected 1")

/-- `throw`: a user error with the script's message. -/
def throw : RideFunction := fun args =>
  match stringArg args with
  | .ok s => .error (EvaluationErrorType.userError.new s)
  | .error e => .error (wrapPlain "throw" e)

/-- `throw0`: a user error with the default message. -/
def throw0 : RideFunction := fun _ =>
  .error (EvaluationErrorType.userError.new defaultThrowMessage)

end Natives

end Gowaves.Ride
