import Otserv.Foundation.Runs

/-!
# The login queue

When the server is full a player who logs in is put at the end of one of two lists, with the time
up to which its place is kept, and is told its place; it is to try again before that time. Players
with a premium account wait in a list of their own, before all others.

An entry is a pair of a time and the number of a player, as in the source. The time, the number of
players in the game and the limit come with each call; a call has one time.
-/

namespace Otserv.Logins

open Foundation

abbrev ACCOUNT_TYPE_GAMEMASTER : Nat := 4

structure Player where
  guid : Nat
  isPremium : Bool := false
  canAlwaysLogin : Bool := false
  accountType : Nat := 1

/-- Each entry is a timeout and the guid of a player. -/
abbrev WaitList := List (Int × Nat)

structure WaitLists where
  priorityWaitList : WaitList := []
  waitList : WaitList := []

def getWaitTime (slot : Nat) : Nat :=
  if slot < 5 then 5
  else if slot < 10 then 10
  else if slot < 20 then 20
  else if slot < 50 then 60
  else 120

/-- The timeout is 15 seconds longer than the expected retry attempt. -/
def getTimeout (slot : Nat) : Nat := getWaitTime slot + 15

def cleanupList (time : Int) (list : WaitList) : WaitList :=
  list.filter fun entry => ¬ entry.1 ≤ time

/-- The entry of a player, or the end of the list. -/
def findEntry (guid : Nat) (list : WaitList) : Nat := list.findIdx fun entry => entry.2 == guid

namespace WaitLists

variable (lists : WaitLists)

def cleanup (time : Int) : WaitLists where
  priorityWaitList := cleanupList time lists.priorityWaitList
  waitList := cleanupList time lists.waitList

/-- The list that `findClient` has found the player in. -/
def get (priority : Bool) : WaitList :=
  if priority then lists.priorityWaitList else lists.waitList

def modify (priority : Bool) (change : WaitList → WaitList) : WaitLists :=
  if priority then { lists with priorityWaitList := change lists.priorityWaitList }
  else { lists with waitList := change lists.waitList }

/-- Whether it is the list of the premium players, the place in the list, and the slot. -/
def findClient (player : Player) : Bool × Nat × Nat :=
  let it := findEntry player.guid lists.priorityWaitList
  if it ≠ lists.priorityWaitList.length then (true, it, lists.priorityWaitList.length - it + 1)
  else
    let it := findEntry player.guid lists.waitList
    if it ≠ lists.waitList.length then
      (false, it, lists.priorityWaitList.length + (lists.waitList.length - it) + 1)
    else
      (false, lists.waitList.length, lists.priorityWaitList.length + lists.waitList.length)

/-- The lists after a call, and the slot that it returns. -/
def clientLogin (player : Player) (time : Int) (playersOnline maxPlayers : Nat) : WaitLists × Nat :=
  if player.canAlwaysLogin ∨ ACCOUNT_TYPE_GAMEMASTER ≤ player.accountType then (lists, 0)
  else
    let lists := lists.cleanup time
    let timeout (slot : Nat) : Int := time + (getTimeout slot * 1000 : Nat)
    if maxPlayers = 0 ∨ (lists.priorityWaitList = [] ∧ lists.waitList = [] ∧
        playersOnline < maxPlayers) then (lists, 0)
    else
      let (priority, it, currentSlot) := lists.findClient player
      if it ≠ (lists.get priority).length then
        if playersOnline + currentSlot ≤ maxPlayers then
          (lists.modify priority fun list => list.eraseIdx it, 0)
        else
          -- the second of the pair is assigned, a number of 32 bits
          (lists.modify priority fun list => list.modify it fun entry =>
            (entry.1, (timeout currentSlot % 2 ^ 32).toNat), currentSlot)
      else if player.isPremium then
        let currentSlot := lists.priorityWaitList.length + 1
        (lists.modify true (· ++ [(timeout currentSlot, player.guid)]), currentSlot)
      else
        let currentSlot := lists.priorityWaitList.length + lists.waitList.length + 1
        (lists.modify false (· ++ [(timeout currentSlot, player.guid)]), currentSlot)

end WaitLists

/-- The lists, and the players who have been refused so far. -/
structure LoginQueue where
  lists : WaitLists := {}
  refused : List Nat := []

structure LoginCall where
  player : Player
  time : Int
  playersOnline : Nat
  maxPlayers : Nat

namespace LoginCall

variable (call : LoginCall)

/-- The call passes the first check. -/
def Passes : Prop :=
  call.player.canAlwaysLogin = false ∧ call.player.accountType < ACCOUNT_TYPE_GAMEMASTER

instance : Decidable call.Passes := inferInstanceAs (Decidable (_ ∧ _))

def answer (queue : LoginQueue) : WaitLists × Nat :=
  queue.lists.clientLogin call.player call.time call.playersOnline call.maxPlayers

end LoginCall

/-- `ProtocolGame::login`, as far as the queue goes. -/
def clientLogins : System LoginQueue LoginCall where
  legal _ call := 0 < call.player.guid ∧ 0 < call.maxPlayers
  step queue call :=
    let (lists, currentSlot) := call.answer queue
    { lists := lists
      refused := if currentSlot ≠ 0 then call.player.guid :: queue.refused else queue.refused }

instance (queue : LoginQueue) (call : LoginCall) : Decidable (clientLogins.legal queue call) :=
  inferInstanceAs (Decidable (_ ∧ _))

end Otserv.Logins
