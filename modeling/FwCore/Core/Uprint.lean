import Mathlib.Logic.Basic

/-!
# The formatted printer (`core/uprint.c`)

`uprint` is a variadic function. Most modules report what they did through it, and
a call is recorded as the source makes it: the format string, and the arguments in
the order they are passed.

What a call does is scan the format. The scanner knows nothing of the format's
length, it stops at the NUL it finds; so here it reads memory, by position, and what
lies behind the format is part of its input. Its loop takes fuel. Every byte sent is
recorded with where it comes from. The port they are sent to, which `uprint_setup`
stores, plays no other part and is left out.

`none` stands for what C does not define: no argument left, an integer where a
string is due or the other way round, a `NULL` string, or a digit stored below the
buffer of `uprint_putu`.
-/

namespace FwCore

/-- The bytes of a C string, without the terminating NUL. -/
abbrev CStr := List UInt8

/-- One variadic argument. A `char *` may be `NULL`. -/
inductive UprintArg where
  | unsigned (v : UInt32)
  | signed (v : Int32)
  | str (s : Option CStr)
deriving DecidableEq, Repr

/-- One call of `uprint`. -/
structure UprintCall where
  fmt : String
  args : List UprintArg
deriving DecidableEq, Repr

/-! ## Printing one argument -/

/-- A character constant. -/
def ascii (c : Char) : UInt8 := c.toUInt8

/-- What `uprint_puts` sends: the bytes before the first NUL. -/
def uprintPuts (s : List UInt8) : List UInt8 := s.takeWhile (· ≠ 0)

/-- `digits[i]`. -/
def uprintDigit (i : UInt32) : UInt8 :=
  (['0', '1', '2', '3', '4', '5', '6', '7', '8', '9', 'A', 'B', 'C', 'D', 'E', 'F'].map
    ascii).getD i.toNat 0

/-- The loop of `uprint_putu`: `buf` is what `p` points to, `room` how far `p` is into the
buffer. -/
def uprintPutuLoop (base : UInt8) : Nat → UInt32 → List UInt8 → Option (List UInt8)
  | 0, n, buf => if n = 0 then some buf else none
  | room + 1, n, buf =>
    if n = 0 then some buf
    else
      uprintPutuLoop base room (n / base.toUInt32) (uprintDigit (n % base.toUInt32) :: buf)

/-- `uprint_putu`. The NUL takes one of the twelve bytes of `buf`. -/
def uprintPutu (n : UInt32) (base : UInt8) : Option (List UInt8) :=
  if n = 0 then some (uprintPuts [ascii '0', 0])
  else (uprintPutuLoop base 11 n [0]).map uprintPuts

/-- `uprint_puti`. -/
def uprintPuti (n : Int32) : Option (List UInt8) :=
  if n < 0 then (uprintPutu (-n.toInt64).toUInt64.toUInt32 10).map (ascii '-' :: ·)
  else uprintPutu n.toUInt32 10

/-- The 32 bits `va_arg` takes for an `int` or an `unsigned`. -/
def UprintArg.word : UprintArg → Option UInt32
  | .unsigned v => some v
  | .signed v => some v.toUInt32
  | .str _ => none

/-- The string `va_arg` takes for a `char*`, if there is one. -/
def UprintArg.string : UprintArg → Option CStr
  | .str s => s
  | _ => none

/-- The specifiers that take an argument. -/
def uprintTakesArg (c : UInt8) : Bool :=
  c = ascii 'd' || c = ascii 'u' || c = ascii 'x' || c = ascii 's' || c = ascii 'c'

/-- What such a specifier sends for its argument. -/
def uprintConvert (c : UInt8) (arg : UprintArg) : Option (List UInt8) :=
  if c = ascii 'd' then do uprintPuti (← arg.word).toInt32
  else if c = ascii 'u' then do uprintPutu (← arg.word) 10
  else if c = ascii 'x' then do uprintPutu (← arg.word) 16
  else if c = ascii 's' then do some (uprintPuts (← arg.string))
  else do some [(← arg.word).toUInt8]

/-! ## The scanner -/

/-- Where a byte that is sent comes from: a position of the format, or an argument. -/
inductive UprintSource where
  | fmt (pos : Nat)
  | arg (arg : UprintArg)
deriving DecidableEq, Repr

/-- What the scanner does: look at a position of the format, or send a byte. -/
inductive UprintEvent where
  | examine (pos : Nat)
  | send (source : UprintSource) (byte : UInt8)
deriving DecidableEq, Repr

/-- The `switch` of `uprint` on the character `c` at `pos`: the bytes sent, and the arguments
left. -/
def uprintSwitch (pos : Nat) (c : UInt8) (args : List UprintArg) :
    Option (List UprintEvent × List UprintArg) :=
  if uprintTakesArg c then
    match args with
    | [] => none
    | arg :: args =>
      match uprintConvert c arg with
      | none => none
      | some bytes => some (bytes.map (.send (.arg arg)), args)
  -- `case '%'` and `default`
  else some ([.send (.fmt pos) c], args)

/-- The loop of `uprint`, with `fmt` at position `pos`. -/
def uprintLoop (read : Nat → UInt8) : Nat → Nat → List UprintArg → Option (List UprintEvent)
  | 0, _, _ => none
  | fuel + 1, pos, args =>
    if read pos = 0 then some [.examine pos]
    else if read pos = ascii '%' then
      match uprintSwitch (pos + 1) (read (pos + 1)) args with
      | none => none
      | some (sent, args) =>
        (uprintLoop read fuel (pos + 2) args).map fun evs =>
          .examine pos :: .examine (pos + 1) :: (sent ++ evs)
    else
      (uprintLoop read fuel (pos + 1) args).map fun evs =>
        .examine pos :: .send (.fmt pos) (read pos) :: evs

/-- Memory from the start of a C string on, with `beyond` behind its NUL. -/
def cstrAt (s : CStr) (beyond : Nat → UInt8) (pos : Nat) : UInt8 :=
  if pos < s.length then s.getD pos 0 else if pos = s.length then 0 else beyond pos

/-- `uprint`. -/
def uprint (fuel : Nat) (fmt : CStr) (beyond : Nat → UInt8) (args : List UprintArg) :
    Option (List UprintEvent) :=
  uprintLoop (cstrAt fmt beyond) fuel 0 args

end FwCore
