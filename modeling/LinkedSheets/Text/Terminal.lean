/-!
# Text without terminal controls

What is left of a text when the sequences that control a terminal are taken out, and all control
characters but the blank ones. Such a sequence begins with an escape character. It ends with its
final character, or is broken off by an escape, cancel or substitute character.
-/

namespace LinkedSheets.Text

/-- Where in a control sequence the next character stands. -/
inductive TerminalState where
  /-- In no sequence. -/
  | text
  /-- After the escape character. -/
  | escape
  /-- After an escape character and intermediate characters. -/
  | intermediate
  /-- In a control sequence (`ESC [`), before its final character. -/
  | control
  /-- After the introducer of a device control string (`ESC P`). -/
  | device
  /-- In the parameters of a device control string. -/
  | deviceParameters
  /-- In the intermediate characters of a device control string. -/
  | deviceIntermediate
  /-- In a string that the byte 0x9C ends. -/
  | string
  /-- In an operating system command (`ESC ]`), which a bell character ends. -/
  | command
deriving DecidableEq

/-- Blank characters that control a terminal and are left in. -/
def isBlankControl (c : Char) : Bool := c = '\t' || c = '\n' || c = '\x0c' || c = '\r'

namespace TerminalState

/-- The state after a character of a device control string with parameters. -/
def afterParameter (c : Char) : TerminalState :=
  if c < ' ' ∨ '\x7f' ≤ c then .deviceParameters
  else if c < '0' then .deviceIntermediate
  else if c < '<' then .deviceParameters
  else .string

/-- The state after a character. -/
def next (s : TerminalState) (c : Char) : TerminalState :=
  if c = '\x18' ∨ c = '\x1a' then .text
  else if c = '\x1b' then .escape
  else match s with
    | .text => .text
    | .escape =>
        if c < ' ' ∨ '\x7f' ≤ c then .escape
        else if c < '0' then .intermediate
        else if c = '[' then .control
        else if c = ']' then .command
        else if c = 'P' then .device
        else if c = 'X' ∨ c = '^' ∨ c = '_' then .string
        else .text
    | .intermediate => if '0' ≤ c ∧ c < '\x7f' then .text else .intermediate
    | .control => if '@' ≤ c ∧ c < '\x7f' then .text else .control
    | .device =>
        if c < ' ' ∨ '\x7f' ≤ c then .device
        else if '<' ≤ c ∧ c < '@' then .deviceParameters
        else afterParameter c
    | .deviceParameters => afterParameter c
    | .deviceIntermediate => if '0' ≤ c ∧ c < '\x7f' then .string else .deviceIntermediate
    | .string => if 0x9C ∈ String.utf8EncodeChar c then .text else .string
    | .command => if c = '\x07' then .text else .command

/-- Whether a character is left in. Blank ones are, also in a sequence, but not in its strings. -/
def leaves (s : TerminalState) (c : Char) : Bool :=
  match s with
  | .text => isBlankControl c || (' ' ≤ c && c ≠ '\x7f')
  | .escape | .intermediate | .control => isBlankControl c
  | _ => false

end TerminalState

/-- What is left of a text that begins in a state. After a character that is left in, others are as
well as if there were no sequence; one that is broken up by a blank goes on after the next character
that is taken out, unless one beyond ASCII has ended it. -/
def withoutControlsFrom (s : TerminalState) (leaving : Bool) : List Char → List Char
  | [] => []
  | c :: rest =>
      if (if leaving then TerminalState.text else s).leaves c then
        c :: withoutControlsFrom (if c < '\x80' then s else .text) true rest
      else withoutControlsFrom (s.next c) false rest

def withoutControls (s : String) : String :=
  String.ofList (withoutControlsFrom .text true s.toList)

end LinkedSheets.Text
