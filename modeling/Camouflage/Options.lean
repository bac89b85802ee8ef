import Camouflage.Browser

namespace Camouflage

structure Options where
  serverName : String := ""
  key : String := ""
  /-- The length of the replay window in seconds. -/
  ticketTimeHint : UInt64 := 0
  browser : Browser := .chrome
  fastOpen : Bool := false
  deriving DecidableEq, Repr

namespace Options

inductive Field
  | serverName
  | key
  | ticketTimeHint
  | browser
  | fastOpen
  deriving DecidableEq, Repr

namespace Field

def name : Field → String
  | .serverName => "ServerName"
  | .key => "Key"
  | .ticketTimeHint => "TicketTimeHint"
  | .browser => "Browser"
  | .fastOpen => "FastOpen"

def all : List Field := [.serverName, .key, .ticketTimeHint, .browser, .fastOpen]

def ofName? (name : List Char) : Option Field := all.find? fun field => field.name.toList == name

end Field

inductive Setting
  | serverName (name : String)
  | key (key : String)
  | ticketTimeHint (seconds : UInt64)
  | browser (browser : Browser)
  | fastOpen (fastOpen : Bool)
  deriving DecidableEq, Repr

def Setting.field : Setting → Field
  | .serverName _ => .serverName
  | .key _ => .key
  | .ticketTimeHint _ => .ticketTimeHint
  | .browser _ => .browser
  | .fastOpen _ => .fastOpen

def set (options : Options) : Setting → Options
  | .serverName serverName => { options with serverName }
  | .key key => { options with key }
  | .ticketTimeHint ticketTimeHint => { options with ticketTimeHint }
  | .browser browser => { options with browser }
  | .fastOpen fastOpen => { options with fastOpen }

def ofSettings (settings : List Setting) : Options := settings.foldl set {}

end Options

end Camouflage
