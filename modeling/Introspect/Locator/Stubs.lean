import Introspect.Identifier

/-! # Built-in declarations

Texts that stand in for what the language itself declares:

* `Stub`, `stubs` — the texts with the kind and name of what they declare;
* `findStub?` — the text for a query;
* `hasStub` — is there a text for a name of either kind?
-/

namespace Introspect

/-- A text that declares one built-in class or function. -/
structure Stub where
  kind : DeclKind
  name : String
  lines : List String

/-- The text of a stub; every line ends with a line feed. -/
def Stub.text (s : Stub) : String :=
  String.join (s.lines.map (· ++ "\n"))

def stubs : List Stub := [
  ⟨.classLike, "ArrayAccess", [
    "<?php",
    "",
    "interface ArrayAccess",
    "\x7b",
    "    public function offsetExists(mixed $offset): bool;",
    "",
    "    public function offsetGet(mixed $offset): mixed;",
    "",
    "    public function offsetSet(mixed $offset, mixed $value): void;",
    "",
    "    public function offsetUnset(mixed $offset): void;",
    "\x7d"]⟩,
  ⟨.classLike, "Closure", [
    "<?php",
    "",
    "final class Closure",
    "\x7b",
    "    private function __construct() \x7b\x7d",
    "",
    "    public static function bind(Closure $closure, ?object $newThis, object|string|null $newScope = \"static\"): ?Closure \x7b\x7d",
    "",
    "    public function bindTo(?object $newThis, object|string|null $newScope = \"static\"): ?Closure \x7b\x7d",
    "",
    "    public function call(object $newThis, mixed ...$args): mixed \x7b\x7d",
    "",
    "    public static function fromCallable(callable $callback): Closure \x7b\x7d",
    "\x7d"]⟩,
  ⟨.classLike, "Countable", [
    "<?php",
    "",
    "interface Countable",
    "\x7b",
    "    public function count(): int;",
    "\x7d"]⟩,
  ⟨.classLike, "Exception", [
    "<?php",
    "",
    "class Exception implements Throwable",
    "\x7b",
    "    protected $message = \"\";",
    "    protected $code = 0;",
    "    protected string $file = \"\";",
    "    protected int $line = 0;",
    "",
    "    public function __construct(string $message = \"\", int $code = 0, ?Throwable $previous = null) \x7b\x7d",
    "",
    "    final public function getMessage(): string \x7b\x7d",
    "",
    "    final public function getCode() \x7b\x7d",
    "",
    "    final public function getFile(): string \x7b\x7d",
    "",
    "    final public function getLine(): int \x7b\x7d",
    "",
    "    final public function getTrace(): array \x7b\x7d",
    "",
    "    final public function getPrevious(): ?Throwable \x7b\x7d",
    "",
    "    final public function getTraceAsString(): string \x7b\x7d",
    "",
    "    public function __toString(): string \x7b\x7d",
    "\x7d"]⟩,
  ⟨.classLike, "Generator", [
    "<?php",
    "",
    "final class Generator implements Iterator",
    "\x7b",
    "    public function current(): mixed \x7b\x7d",
    "",
    "    public function getReturn(): mixed \x7b\x7d",
    "",
    "    public function key(): mixed \x7b\x7d",
    "",
    "    public function next(): void \x7b\x7d",
    "",
    "    public function rewind(): void \x7b\x7d",
    "",
    "    public function send(mixed $value): mixed \x7b\x7d",
    "",
    "    public function valid(): bool \x7b\x7d",
    "\x7d"]⟩,
  ⟨.classLike, "Iterator", [
    "<?php",
    "",
    "interface Iterator extends Traversable",
    "\x7b",
    "    public function current(): mixed;",
    "",
    "    public function next(): void;",
    "",
    "    public function key(): mixed;",
    "",
    "    public function valid(): bool;",
    "",
    "    public function rewind(): void;",
    "\x7d"]⟩,
  ⟨.classLike, "IteratorAggregate", [
    "<?php",
    "",
    "interface IteratorAggregate extends Traversable",
    "\x7b",
    "    public function getIterator(): Iterator;",
    "\x7d"]⟩,
  ⟨.classLike, "JsonSerializable", [
    "<?php",
    "",
    "interface JsonSerializable",
    "\x7b",
    "    public function jsonSerialize(): mixed;",
    "\x7d"]⟩,
  ⟨.classLike, "Stringable", [
    "<?php",
    "",
    "interface Stringable",
    "\x7b",
    "    public function __toString(): string;",
    "\x7d"]⟩,
  ⟨.classLike, "Throwable", [
    "<?php",
    "",
    "interface Throwable extends Stringable",
    "\x7b",
    "    public function getMessage(): string;",
    "",
    "    public function getCode();",
    "",
    "    public function getFile(): string;",
    "",
    "    public function getLine(): int;",
    "",
    "    public function getTrace(): array;",
    "",
    "    public function getTraceAsString(): string;",
    "",
    "    public function getPrevious(): ?Throwable;",
    "\x7d"]⟩,
  ⟨.classLike, "Traversable", [
    "<?php",
    "",
    "interface Traversable",
    "\x7b",
    "\x7d"]⟩,
  ⟨.classLike, "stdClass", [
    "<?php",
    "",
    "class stdClass",
    "\x7b",
    "\x7d"]⟩,
  ⟨.function, "array_map", [
    "<?php",
    "",
    "function array_map(?callable $callback, array $array, array ...$arrays): array \x7b\x7d"]⟩,
  ⟨.function, "count", [
    "<?php",
    "",
    "function count(Countable|array $value, int $mode = COUNT_NORMAL): int \x7b\x7d"]⟩,
  ⟨.function, "iterator_to_array", [
    "<?php",
    "",
    "function iterator_to_array(Traversable|array $iterator, bool $preserve_keys = true): array \x7b\x7d"]⟩,
  ⟨.function, "sprintf", [
    "<?php",
    "",
    "function sprintf(string $format, mixed ...$values): string \x7b\x7d"]⟩,
  ⟨.function, "str_contains", [
    "<?php",
    "",
    "function str_contains(string $haystack, string $needle): bool \x7b\x7d"]⟩,
  ⟨.function, "strlen", [
    "<?php",
    "",
    "function strlen(string $string): int \x7b\x7d"]⟩]

/-- The text for a query: its kind must be equal, and its name up to letter case. -/
def findStub? (i : Identifier) : Option Stub :=
  stubs.find? fun s => s.kind == i.kind && i.matchesName s.name

/-- Is a class or function of this name built in? -/
def hasStub (name : String) : Bool :=
  stubs.any fun s => Text.sameFolded s.name (unrooted name)

end Introspect
