import ModuleDiscovery.Script.Grammar.ModuleItem

/-!
# The grammar

One rule for each nonterminal.
-/

namespace ModuleDiscovery.Script

/-- The rule of a nonterminal. -/
def grammar : Nonterminal → Context → Parser Tree
  | .programItem => Grammar.programItem
  | .blockItem => Grammar.blockItem
  | .block => Grammar.block
  | .statement place => Grammar.statement place
  | .variableDeclaration inHead => Grammar.variableDeclaration inHead
  | .usingDeclaration inHead => Grammar.usingDeclaration inHead
  | .declarator checked constant => Grammar.declarator checked constant
  | .declaratorItem checked constant => Grammar.declaratorItem checked constant
  | .resource inHead => Grammar.resource inHead
  | .resourceItem inHead => Grammar.resourceItem inHead
  | .forStatement => Grammar.forStatement
  | .forRest start awaits constant head => Grammar.forRest start awaits constant head
  | .forEachRest start awaits head => Grammar.forEachRest start awaits head
  | .switchItem => Grammar.switchItem
  | .caseItem => Grammar.caseItem
  | .importDeclaration => Grammar.importDeclaration
  | .importItem => Grammar.importItem
  | .importAttributes => Grammar.importAttributes
  | .attributeItem => Grammar.attributeItem
  | .exportDeclaration start decorators => Grammar.exportDeclaration start decorators
  | .exportItem => Grammar.exportItem
  | .expression => Grammar.expression
  | .sequenceItem => Grammar.sequenceItem
  | .assignment => Grammar.assignment
  | .conditionalRest left => Grammar.conditionalRest left
  | .arrowHead => Grammar.arrowHead
  | .arrowBody async start parameters => Grammar.arrowBody async start parameters
  | .binary least => Grammar.binary least
  | .binaryRest least left => Grammar.binaryRest least left
  | .unary => Grammar.unary
  | .simpleUnary => Grammar.simpleUnary
  | .update => Grammar.update
  | .leftHandSide => Grammar.leftHandSide
  | .memberHead => Grammar.memberHead
  | .memberRest mayChain left => Grammar.memberRest mayChain left
  | .callRest left => Grammar.callRest left
  | .template tagged start => Grammar.template tagged start
  | .substitutionItem tagged => Grammar.substitutionItem tagged
  | .arguments => Grammar.arguments
  | .argumentItem => Grammar.argumentItem
  | .arrayItem => Grammar.arrayItem
  | .objectItem => Grammar.objectItem
  | .propertyName => Grammar.propertyName
  | .parenthesizedItem => Grammar.parenthesizedItem
  | .modifiers inClass seen => Grammar.modifiers inClass seen
  | .functionDeclaration needsName => Grammar.functionDeclaration needsName
  | .functionExpression => Grammar.functionExpression
  | .functionRest start form => Grammar.functionRest start form
  | .functionBody => Grammar.functionBody
  | .parameters => Grammar.parameters
  | .parameterItem => Grammar.parameterItem
  | .bindingTarget => Grammar.bindingTarget
  | .bindingElement => Grammar.bindingElement
  | .arrayBindingItem => Grammar.arrayBindingItem
  | .objectBindingItem => Grammar.objectBindingItem
  | .classTail start decorators => Grammar.classTail start decorators
  | .heritage seen => Grammar.heritage seen
  | .superclass => Grammar.superclass
  | .superclassItem => Grammar.superclassItem
  | .implemented => Grammar.implemented
  | .implementedItem => Grammar.implementedItem
  | .classItem => Grammar.classItem
  | .decoratorItem => Grammar.decoratorItem
  | .type conditional => Grammar.type conditional
  | .typeJoined operator => Grammar.typeJoined operator
  | .typeJoinedItem operator => Grammar.typeJoinedItem operator
  | .typeOperand => Grammar.typeOperand
  | .typePostfix left => Grammar.typePostfix left
  | .typeFunction => Grammar.typeFunction
  | .typeItem => Grammar.typeItem
  | .tupleItem => Grammar.tupleItem
  | .typeParameterItem => Grammar.typeParameterItem
  | .typeMemberItem => Grammar.typeMemberItem
  | .typeSubstitutionItem => Grammar.typeSubstitutionItem
  | .indexItem => Grammar.indexItem
  | .dottedItem => Grammar.dottedItem
  | .interfaceTail start => Grammar.interfaceTail start

end ModuleDiscovery.Script
