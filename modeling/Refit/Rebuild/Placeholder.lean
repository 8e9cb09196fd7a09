import Refit.Datum.Fault
import Refit.Rebuild.Output

/-!
Sources that stand in for those that were not handed over, and a first test.
-/

namespace Refit.Placeholder

open Datum (Read)

def origin (migration : Datum) : Read String := do
  ((Dict.get (← migration.asDict) "source").orElse "unknown").toText

def model (migration : Datum) : Read String := do
  let name ← (← migration.field "name").toText
  return Output.source [
    "class " ++ name ++ " \x7b",
    "  // Rebuilt from " ++ (← origin migration),
    "\x7d"]

def screen (migration : Datum) : Read String := do
  let name ← (← migration.field "name").toText
  return Output.source [
    "import 'package:flutter/material.dart';",
    "",
    "// Rebuilt from " ++ (← origin migration),
    "class " ++ name ++ " extends StatelessWidget \x7b",
    "  const " ++ name ++ "(\x7bsuper.key\x7d);",
    "",
    "  @override",
    "  Widget build(BuildContext context) \x7b",
    "    return Scaffold(",
    "      appBar: AppBar(title: const Text('" ++ name ++ "')),",
    "      body: const Center(child: Text('Screen content here')),",
    "    );",
    "  \x7d",
    "\x7d"]

-- A test that starts the application of a package.
def smokeTest (package : Datum) : Read String := do
  return Output.source [
    "import 'package:flutter_test/flutter_test.dart';",
    "import 'package:" ++ (← package.toText) ++ "/main.dart';",
    "",
    "void main() \x7b",
    "  testWidgets('App smoke test', (WidgetTester tester) async \x7b",
    "    await tester.pumpWidget(const MyApp());",
    "    expect(find.text('" ++ Output.welcome ++ "'), findsOneWidget);",
    "  \x7d);",
    "\x7d"]

end Refit.Placeholder
