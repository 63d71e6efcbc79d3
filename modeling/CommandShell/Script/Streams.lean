import CommandShell.Script.Syntax
import CommandShell.World.Basic

/-!
# `CommandShell.Script.Streams` — the open files of a program

Several descriptors may share one open file, and then they read and write at one place. A program
that is started gets the open files of the one that starts it, and what it opens itself is closed
when it ends.

## Contents
- **Channels.** `Channel`, an open file or what stands for one.
- **Streams.** `Streams`: all channels, and which of them each descriptor stands for.
- **Descriptors.** `bind`, `close` and `add`; `held` channels wait for the end of a redirection.
- **Sharing.** `Streams.forStart` is what a started program gets, and `Streams.afterStart` what is
  left of it afterwards. `Streams.written` are the files that are open for writing.
-/

namespace CommandShell

namespace Script

/-! ## Channels -/

/-- An open file, or what stands for one. -/
inductive Channel where
  /-- Open for writing. -/
  | output (sink : Sink)
  /-- Open for reading. -/
  | input (h : Handle)
  /-- Open for reading and writing. -/
  | update (h : Handle)
  /-- A text that is being written. -/
  | gathered (text : Text)
  /-- A text that is still to be read. -/
  | supply (text : Text)
  /-- The keyboard; no key is left for programs. -/
  | keyboard
  | closed
  deriving DecidableEq

namespace Channel

/-- The location of a file that is open for writing. -/
def written? : Channel → Option Location
  | .output (.file h) | .update h => some h.location
  | _ => none

/-- What is still to be read from a channel. -/
def unread (fs : FileSystem) : Channel → Text
  | .supply text => text
  | .input h | .update h =>
    match fs.node? h.location with
    | some (.file content _) => ofBytes (content.drop h.offset)
    | _ => []
  | _ => []

/-- The channel after so many characters have been read. -/
def advance (n : Nat) : Channel → Channel
  | .supply text => .supply (text.drop n)
  | .input h => .input { h with offset := h.offset + n }
  | .update h => .update { h with offset := h.offset + n }
  | c => c

end Channel

/-! ## Streams -/

/-- The open files of a program. -/
structure Streams where
  channels : List Channel
  /-- Which of them each descriptor stands for. -/
  descriptors : List (Nat × Nat)
  /-- The channels of descriptors that stand for something else for a while. -/
  held : List Nat := []
  /-- The number of channels, from the first on, that are open in other programs too. -/
  shared : Nat := 0
  deriving DecidableEq

namespace Streams

/-- The streams of a program with an input and two outputs. -/
def ofChannels (input : Channel) (out err : Sink) : Streams where
  channels := [input, .output out, .output err]
  descriptors := [(0, 0), (1, 1), (2, 2)]

/-! ## Descriptors -/

/-- The number of the channel that a descriptor stands for. -/
def index? (s : Streams) (descriptor : Nat) : Option Nat := s.descriptors.lookup descriptor

/-- The channel that a descriptor stands for. -/
def channel? (s : Streams) (descriptor : Nat) : Option Channel :=
  (s.index? descriptor).bind fun n => s.channels[n]?

/-- The streams without a descriptor. -/
def close (s : Streams) (descriptor : Nat) : Streams :=
  { s with descriptors := s.descriptors.filter fun d => d.1 != descriptor }

/-- The streams with a descriptor for one of the channels. -/
def bind (s : Streams) (descriptor channel : Nat) : Streams :=
  { s with descriptors := (descriptor, channel) :: (s.close descriptor).descriptors }

/-- The streams with a descriptor for a channel, or without it. -/
def put (s : Streams) (descriptor : Nat) (channel : Option Nat) : Streams :=
  match channel with
  | some n => s.bind descriptor n
  | none => s.close descriptor

/-- The streams with a new channel for a descriptor. -/
def add (s : Streams) (descriptor : Nat) (c : Channel) : Streams :=
  { s with channels := s.channels ++ [c] }.bind descriptor s.channels.length

/-- The streams with a channel changed. -/
def set (s : Streams) (n : Nat) (c : Channel) : Streams :=
  { s with channels := s.channels.set n c }

/-- Whether a channel is in use. -/
def isOpen (s : Streams) (n : Nat) : Bool :=
  n < s.shared || s.held.contains n || s.descriptors.any fun d => d.2 == n

/-- The streams without the channels at their end that are not in use. -/
def trim (s : Streams) : Streams :=
  let unused := (List.range s.channels.length).reverse.takeWhile fun n => !s.isOpen n
  { s with channels := s.channels.take (s.channels.length - unused.length) }

/-! ## Sharing -/

/-- The streams that a started program gets: all channels are shared then, and those that are not in
    use are closed. -/
def forStart (s : Streams) : Streams where
  channels := s.channels.zipIdx.map fun c => if s.isOpen c.2 then c.1 else .closed
  descriptors := s.descriptors
  shared := s.channels.length

/-- The streams after a started program has ended: the channels have moved on. -/
def afterStart (s ended : Streams) : Streams :=
  { s with channels := ended.channels.take s.channels.length }

/-- The files that are open for writing. -/
def written (s : Streams) : List Location :=
  s.channels.zipIdx.filterMap fun c => if s.isOpen c.2 then c.1.written? else none

end Streams

end Script

end CommandShell
