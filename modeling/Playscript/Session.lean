/-
This file is the way from the text of a script to a player that is ready to play it. A host may keep
one configuration for everything it plays; it is set once and never changed after that.
-/

import Playscript.Failure
import Playscript.Log
import Playscript.Playback.Builtin

namespace Playscript

/-- What a host decides before it plays a script. -/
structure SessionConfig where
  settings : Settings := {}
  /-- The scene to start from. -/
  startScene : String := mainScene
  log : LogSettings := {}

/-! ### From text to player -/

/-- The programme of a text. -/
def compile (source : String) : Except Failure Programme :=
  match Script.read source with
  | .error error => .error (.noScript error)
  | .ok script => script.compile.mapError .defects

/-- The programme, if it has the scene to start from. -/
def SessionConfig.accept (config : SessionConfig) (programme : Programme) :
    Except Failure Programme :=
  if programme.containsScene config.startScene then .ok programme
  else .error (.unknownScene config.startScene)

/-- The programme of a text that has the scene to start from. -/
def compileFor (config : SessionConfig) (source : String) : Except Failure Programme :=
  (compile source).bind config.accept

/-- A player at the start of the scene to start from. -/
def playerFor (config : SessionConfig) (programme : Programme) : Except Failure Player :=
  (config.accept programme).map fun programme =>
    let player := Player.start programme config.settings
    if player.sceneName = config.startScene then player
    else (player.loadScene? config.startScene).getD player

/-- A player that is ready to play a text. Its controls are those with the built-in operations. -/
def play (config : SessionConfig) (source : String) : Except Failure Player :=
  (compileFor config source).bind (playerFor config)

/-! ### The configuration of a host -/

/-- The place for the configuration of a host. -/
structure HostConfig where
  installed : Option SessionConfig := none

namespace HostConfig

/-- Whether a configuration has been set. -/
def isInstalled (host : HostConfig) : Bool := host.installed.isSome

/-- Sets the configuration; it is handed back if there is one already. -/
def install (host : HostConfig) (config : SessionConfig) : Except SessionConfig HostConfig :=
  if host.isInstalled then .error config else .ok ⟨some config⟩

/-- The configuration. If none has been set, the usual one is set now. -/
def current (host : HostConfig) : SessionConfig × HostConfig :=
  let config := host.installed.getD {}
  (config, ⟨some config⟩)

end HostConfig

end Playscript
