/-! # Strategies and transfer methods

A strategy says how the arguments of a function are packed, validated and decoded.
A transfer method says how the data behind a pointer argument travels.
-/

namespace CommandBuffer

inductive Strategy where
  /-- A client-only call without a wire command. -/
  | noCommand
  /-- Plain values, decoded and forwarded as they are. -/
  | direct
  /-- A hand-written handler that resolves pointers itself. -/
  | custom
  /-- A fixed number of data units. -/
  | put
  /-- As many times the unit count as an argument says. -/
  | putN
  /-- A sized result that comes back through shared memory. -/
  | getN
  /-- Allocates client ids and sends them. -/
  | genN
  /-- Releases ids. -/
  | delN
  /-- A single value that comes back through shared memory. -/
  | is
  /-- Creates one object whose id the client allocates. -/
  | create
  deriving DecidableEq, Repr

namespace Strategy

def all : List Strategy :=
  [noCommand, direct, custom, put, putN, getN, genN, delN, is, create]

/-- The text that names the strategy in definitions and messages. -/
def text : Strategy → String
  | noCommand => "NoCommand"
  | direct => "Direct"
  | custom => "Custom"
  | put => "PUT"
  | putN => "PUTn"
  | getN => "GETn"
  | genN => "GENn"
  | delN => "DELn"
  | is => "Is"
  | create => "Create"

/-- The name that stands for the strategy in a record dump. -/
def dumpName : Strategy → String
  | noCommand => "NoCommand"
  | direct => "Direct"
  | custom => "Custom"
  | put => "Put"
  | putN => "PutN"
  | getN => "GetN"
  | genN => "GenN"
  | delN => "DelN"
  | is => "Is"
  | create => "Create"

def ofText? (text : String) : Option Strategy := all.find? (·.text == text)

theorem ofText?_text (strategy : Strategy) : ofText? strategy.text = some strategy := by
  cases strategy <;> decide

/-- The strategies that take a unit count. -/
def isPutFamily : Strategy → Bool
  | put | putN => true
  | _ => false

/-- The strategies that have wire commands. -/
def hasCommands (strategy : Strategy) : Bool := strategy ≠ noCommand

/-- The strategies whose result travels back through shared memory. -/
def returnsThroughSharedMemory : Strategy → Bool
  | getN | is => true
  | _ => false

end Strategy

/-- How pointer data moves; listed in the order of preference. -/
inductive Transfer where
  /-- In the command buffer, right behind the command. -/
  | immediate
  /-- In a shared-memory segment, addressed by id and offset. -/
  | shm
  /-- In a bucket, addressed by its id. -/
  | bucket
  deriving DecidableEq, Repr

namespace Transfer

/-- Every method, the preferred ones first. -/
def all : List Transfer := [immediate, shm, bucket]

def text : Transfer → String
  | immediate => "immediate"
  | shm => "shm"
  | bucket => "bucket"

/-- The name that stands for the method in a log line. -/
def logName : Transfer → String
  | immediate => "Immediate"
  | shm => "Shm"
  | bucket => "Bucket"

def ofText? (text : String) : Option Transfer := all.find? (·.text == text)

theorem ofText?_text (method : Transfer) : ofText? method.text = some method := by
  cases method <;> decide

/-- What the method appends to a function name to name the command. -/
def commandSuffix : Transfer → String
  | immediate => "Immediate"
  | shm => ""
  | bucket => "Bucket"

/-- The requested methods without repetition, in the order of preference. -/
def inPreferenceOrder (requested : List Transfer) : List Transfer := all.filter (· ∈ requested)

end Transfer
end CommandBuffer
