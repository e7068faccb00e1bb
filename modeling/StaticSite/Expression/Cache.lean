import StaticSite.Expression.Program

/-!
# Caching programs

A cache keeps the program of every expression text it has prepared. A text that cannot be prepared
is not kept, so it fails again in the same way. How texts are prepared is left to a compiler.
-/

namespace StaticSite.Expression

/-- How expression texts are prepared, and how what they are prepared to is evaluated. -/
structure Compiler where
  Program : Type
  compile : List Char → Except Fault Program
  run : Program → Scope → Except Fault Value

def Compiler.evaluate (compiler : Compiler) (s : List Char) (scope : Scope) : Except Fault Value :=
  (compiler.compile s).bind (compiler.run · scope)

/-- The compiler of the expression language. -/
def compiler : Compiler := ⟨Program, compile, Program.run⟩

theorem evaluate_compiler : compiler.evaluate = evaluate := rfl

structure Cache (compiler : Compiler) where
  programs : List (List Char × compiler.Program)
  deriving Inhabited

namespace Cache

variable {compiler : Compiler}

def empty : Cache compiler := ⟨[]⟩

/-- The number of distinct texts prepared so far. -/
def size (cache : Cache compiler) : Nat := cache.programs.length

def clear (_ : Cache compiler) : Cache compiler := empty

/-- The program of a text, and the cache that holds it. -/
def compile (cache : Cache compiler) (s : List Char) :
    Except Fault compiler.Program × Cache compiler :=
  match cache.programs.lookup s with
  | some program => (.ok program, cache)
  | none => match compiler.compile s with
    | .ok program => (.ok program, ⟨cache.programs ++ [(s, program)]⟩)
    | .error fault => (.error fault, cache)

def evaluate (cache : Cache compiler) (s : List Char) (scope : Scope) :
    Except Fault Value × Cache compiler :=
  let (program, next) := cache.compile s
  (program.bind (compiler.run · scope), next)

end Cache

end StaticSite.Expression
