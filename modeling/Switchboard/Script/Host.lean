import Switchboard.Script.Engine

/-!
# Hosts of scripts

A service runs scripts on a host, which can load a script and call a function
that was loaded.  What the host remembers is a state of its own, so a service
can be told apart from the host it runs on.

The host that a service comes with embeds an engine.  It remembers one program,
which holds the functions of every script that it was given: those of a script
are merged into it when the script is loaded.

## Main definitions

* `Host σ`: a host whose state is a `σ`.
* `Host.loadThenCall`: a call right behind a load, unless the load fails.
* `Host.embedding`: the host that embeds an engine.
-/

namespace Switchboard.Script

/-- What can load scripts and call their functions, with faults in words. -/
structure Host (σ : Type) where
  load : String → σ → Except String Unit × σ
  call : String → List Json → σ → Except String Json × σ

namespace Host

variable {σ : Type}

/-- A call right behind a load, unless the load fails. -/
def loadThenCall (host : Host σ) (source name : String) (args : List Json) (s : σ) :
    Except String Json × σ :=
  match host.load source s with
  | (.ok (), s) => host.call name args s
  | (.error e, s) => (.error e, s)

/-- The host that embeds an engine.  What stands outside the functions of a script is
dropped, so to load it again does nothing else; a script that does not compile changes
nothing, and neither does a call. -/
def embedding (engine : Engine) (config : engine.Config) : Host engine.Program where
  load source program :=
    match engine.compile config source with
    | .error words => (.error ("script compilation failed: " ++ words), program)
    | .ok script => (.ok (), engine.merge program (engine.functionsOnly script))
  call name args program :=
    let result : Except String Json := do
      let values ← (args.mapM engine.toValue).mapError ("argument conversion failed: " ++ ·)
      let result ← engine.call config program name values
      (engine.ofValue result).mapError ("result conversion failed: " ++ ·)
    (result, program)

end Host

end Switchboard.Script
