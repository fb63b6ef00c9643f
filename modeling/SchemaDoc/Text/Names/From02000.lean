/-
SchemaDoc.Text.Names.From02000 — the names of the characters from U+2000 on.

The block holds punctuation, arrows, operators, frames and signs.
How it is written is said where it is read.
-/

namespace SchemaDoc.Text.Names

/-- The names from U+2000 on. -/
def from02000 : String :=
  "aEN QUAD,gM QUAD,gN SPACE,hM SPACE,iTHREE-PER-EM SPACE,sFOUR-PER-EM SPACE,rSIX-PER-EM SPACE
qFIGURE SPACE,mPUNCTUATION SPACE,rTHIN SPACE,kHAIR SPACE,kZERO WIDTH SPACE,fNON-JOINER,kJOINER
rLEFT-TO-RIGHT MARK,sRIGHT-TO-LEFT MARK,sHYPHEN,gNON-BREAKING HYPHEN,tFIGURE DASH,lEN DASH,gM DASH
hHORIZONTAL BAR,oDOUBLE VERTICAL LINE,nLOW LINE,pLEFT SINGLE QUOTATION MARK
zbRIGHT SINGLE QUOTATION MARK,zcSINGLE LOW-9 QUOTATION MARK,uHIGH-REVERSED-9 QUOTATION MARK
zmLEFT DOUBLE QUOTATION MARK,zbRIGHT DOUBLE QUOTATION MARK,zcDOUBLE LOW-9 QUOTATION MARK
uHIGH-REVERSED-9 QUOTATION MARK,zlAGGER,fOUBLE DAGGER,nBULLET,gTRIANGULAR BULLET,rONE DOT LEADER
oTWO DOT LEADER,oHORIZONTAL ELLIPSIS,sYPHENATION POINT,rLINE SEPARATOR,oPARAGRAPH SEPARATOR
tLEFT-TO-RIGHT EMBEDDING,xRIGHT-TO-LEFT EMBEDDING,xPOP DIRECTIONAL FORMATTING
zbLEFT-TO-RIGHT OVERRIDE,wRIGHT-TO-LEFT OVERRIDE,wNARROW NO-BREAK SPACE,vPER MILLE SIGN
kTEN THOUSAND SIGN,uRIME,fDOUBLE PRIME,mTRIPLE PRIME,mREVERSED PRIME,fDOUBLE PRIME,mTRIPLE PRIME
vCARET,fSINGLE LEFT-POINTING ANGLE QUOTATION MARK,zjRIGHT-POINTING ANGLE QUOTATION MARK
zrREFERENCE MARK,oDOUBLE EXCLAMATION MARK,xINTERROBANG,lOVERLINE,iUNDERTIE,iCHARACTER TIE
mARET INSERTION POINT,vASTERISM,iHYPHEN BULLET,nFRACTION SLASH,oLEFT SQUARE BRACKET WITH QUILL
zfRIGHT SQUARE BRACKET WITH QUILL,zgDOUBLE QUESTION MARK,uQUESTION EXCLAMATION MARK
zaEXCLAMATION QUESTION MARK,zaTIRONIAN SIGN ET,qREVERSED PILCROW SIGN,vBLACK LEFTWARDS BULLET
qRIGHTWARDS BULLET,xLOW ASTERISK,mREVERSED SEMICOLON,sCLOSE UP,iTWO ASTERISKS ALIGNED VERTICALLY
zhCOMMERCIAL MINUS SIGN,vSWUNG DASH,kINVERTED UNDERTIE,rFLOWER PUNCTUATION MARK
xTHREE DOT PUNCTUATION,vQUADRUPLE PRIME,pFOUR DOT PUNCTUATION,tIVE DOT PUNCTUATION
uTWO DOT PUNCTUATION,tFOUR DOT MARK,nDOTTED CROSS,mTRICOLON,iVERTICAL FOUR DOTS
sMEDIUM MATHEMATICAL SPACE,zaWORD JOINER,lFUNCTION APPLICATION,uINVISIBLE TIMES,fSEPARATOR,jPLUS,+1
oLEFT-TO-RIGHT ISOLATE,vRIGHT-TO-LEFT ISOLATE,vFIRST STRONG ISOLATE,uPOP DIRECTIONAL ISOLATE
xINHIBIT SYMMETRIC SWAPPING,zbACTIVATE SYMMETRIC SWAPPING,zcINHIBIT ARABIC FORM SHAPING
zcACTIVATE ARABIC FORM SHAPING,zdNATIONAL DIGIT SHAPES,uOMINAL DIGIT SHAPES,uSUPERSCRIPT ZERO
eLATIN SMALL LETTER I,+2,uFOUR,dIVE,eSIX,cEVEN,fEIGHT,fNINE,ePLUS SIGN,jMINUS,fEQUALS SIGN
lLEFT PARENTHESIS,qRIGHT PARENTHESIS,rLATIN SMALL LETTER N,zfBSCRIPT ZERO,eONE,dTWO,cHREE,fFOUR
dIVE,eSIX,cEVEN,fEIGHT,fNINE,ePLUS SIGN,jMINUS,fEQUALS SIGN,lLEFT PARENTHESIS,qRIGHT PARENTHESIS,+1
zcLATIN SUBSCRIPT SMALL LETTER A,bE,bO,bX,bSCHWA,fH,bK,bL,bM,bN,bP,bS,bT,+3,zfEURO-CURRENCY SIGN
sCOLON SIGN,jRUZEIRO SIGN,nFRENCH FRANC SIGN,rLIRA SIGN,jMILL SIGN,jNAIRA SIGN,kPESETA SIGN
lRUPEE SIGN,kWON SIGN,iNEW SHEQEL SIGN,pDONG SIGN,jEURO SIGN,jKIP SIGN,iTUGRIK SIGN,lDRACHMA SIGN
mGERMAN PENNY SIGN,rPESO SIGN,jGUARANI SIGN,mAUSTRAL SIGN,mHRYVNIA SIGN,mCEDI SIGN
jLIVRE TOURNOIS SIGN,tSPESMILO SIGN,nTENGE SIGN,kINDIAN RUPEE SIGN,rTURKISH LIRA SIGN
rNORDIC MARK SIGN,qMANAT SIGN,kRUBLE SIGN,kLARI SIGN,jBITCOIN SIGN,mSOM SIGN,+15
iCOMBINING LEFT HARPOON ABOVE,sRIGHT HARPOON ABOVE,tLONG VERTICAL LINE OVERLAY
zbSHORT VERTICAL LINE OVERLAY,zcANTICLOCKWISE ARROW ABOVE,zaCLOCKWISE ARROW ABOVE,vLEFT ARROW ABOVE
qRIGHT ARROW ABOVE,pNG OVERLAY,mCLOCKWISE RING OVERLAY,wANTICLOCKWISE RING OVERLAY
zbTHREE DOTS ABOVE,qFOUR DOTS ABOVE,pENCLOSING CIRCLE,gSQUARE,gDIAMOND,hCIRCLE BACKSLASH
zbLEFT RIGHT ARROW ABOVE,wENCLOSING SCREEN,gKEYCAP,gUPWARD POINTING TRIANGLE
zjREVERSE SOLIDUS OVERLAY,xDOUBLE VERTICAL STROKE OVERLAY,zfANNUITY SYMBOL,oTRIPLE UNDERDOT
pWIDE BRIDGE ABOVE,rLEFTWARDS ARROW OVERLAY,wONG DOUBLE SOLIDUS OVERLAY
zcRIGHTWARDS HARPOON WITH BARB DOWNWARDS,znLEFTWARDS HARPOON WITH BARB DOWNWARDS,zi ARROW BELOW
qRIGHT ARROW BELOW,rASTERISK ABOVE,+15,yACCOUNT OF,jDDRESSED TO THE SUBJECT
yDOUBLE-STRUCK CAPITAL C,wEGREE CELSIUS,oCENTRE LINE SYMBOL,rARE OF,fDA UNA,iEULER CONSTANT
oSCRUPLE,hDEGREE FAHRENHEIT,rSCRIPT SMALL G,hCAPITAL H,qBLACK-LETTER CAPITAL H
wDOUBLE-STRUCK CAPITAL H,xPLANCK CONSTANT,a OVER TWO PI,zcSCRIPT CAPITAL I,qBLACK-LETTER CAPITAL I
wSCRIPT CAPITAL L,jSMALL L,oL B BAR SYMBOL,oDOUBLE-STRUCK CAPITAL N,xNUMERO SIGN
lSOUND RECORDING COPYRIGHT,yCRIPT CAPITAL P,qDOUBLE-STRUCK CAPITAL P,bQ,xSCRIPT CAPITAL R
qBLACK-LETTER CAPITAL R,wDOUBLE-STRUCK CAPITAL R,xPRESCRIPTION TAKE,rRESPONSE,iSERVICE MARK
mTELEPHONE SIGN,nRADE MARK SIGN,pVERSICLE,iDOUBLE-STRUCK CAPITAL Z,xOUNCE SIGN,jHM SIGN
iINVERTED OHM SIGN,rBLACK-LETTER CAPITAL Z,wTURNED GREEK SMALL LETTER IOTA,zfKELVIN SIGN
lANGSTROM SIGN,nSCRIPT CAPITAL B,qBLACK-LETTER CAPITAL C,wESTIMATED SYMBOL,qSCRIPT SMALL E
hCAPITAL E,bF,qTURNED CAPITAL F,qSCRIPT CAPITAL M,jSMALL O,oALEF SYMBOL,lBET SYMBOL,kGIMEL SYMBOL
mDALET SYMBOL,mINFORMATION SOURCE,sROTATED CAPITAL Q,rFACSIMILE SIGN,oDOUBLE-STRUCK SMALL PI,cGAMMA
lCAPITAL GAMMA,fPI,kN-ARY SUMMATION,zeTURNED SANS-SERIF CAPITAL G,bL
zcREVERSED SANS-SERIF CAPITAL L,zeTURNED SANS-SERIF CAPITAL Y,zcDOUBLE-STRUCK ITALIC CAPITAL D
jSMALL D,bE,bI,bJ,zdPROPERTY LINE,nTURNED AMPERSAND,qPER SIGN,iAKTIESELSKAB,mTURNED SMALL F
oSYMBOL FOR SAMARITAN SOURCE,zcVULGAR FRACTION ONE SEVENTH,hNINTH,fTENTH,eHIRD,jTWO THIRDS
kONE FIFTH,jTWO FIFTHS,jHREE FIFTHS,mFOUR FIFTHS,lONE SIXTH,jFIVE SIXTHS,lONE EIGHTH,kTHREE EIGHTHS
nFIVE EIGHTHS,mSEVEN EIGHTHS,zeFRACTION NUMERATOR ONE,wROMAN NUMERAL ONE,dTWO,cHREE,fFOUR,dIVE,eSIX
cEVEN,fEIGHT,fNINE,eTEN,dELEVEN,gTWELVE,gFIFTY,fONE HUNDRED,lFIVE HUNDRED,mONE THOUSAND
zbSMALL ROMAN NUMERAL ONE,dTWO,cHREE,fFOUR,dIVE,eSIX,cEVEN,fEIGHT,fNINE,eTEN,dELEVEN,gTWELVE,gFIFTY
fONE HUNDRED,lFIVE HUNDRED,mONE THOUSAND,zhROMAN NUMERAL ONE THOUSAND C D,qFIVE THOUSAND
nTEN THOUSAND,mREVERSED ONE HUNDRED,zjLATIN SMALL LETTER REVERSED C,zeROMAN NUMERAL SIX LATE FORM
nFIFTY EARLY FORM,kTHOUSAND,oONE HUNDRED THOUSAND,zjVULGAR FRACTION ZERO THIRDS,zcTURNED DIGIT TWO
cHREE,+4,sLEFTWARDS ARROW,pUPWARDS ARROW,nRIGHTWARDS ARROW,qDOWNWARDS ARROW,pLEFT RIGHT ARROW
qUP DOWN ARROW,nNORTH WEST ARROW,kEAST ARROW,qSOUTH EAST ARROW,kWEST ARROW
qLEFTWARDS ARROW WITH STROKE,zcRIGHTWARDS ARROW WITH STROKE,zdLEFTWARDS WAVE ARROW
uRIGHTWARDS WAVE ARROW,vLEFTWARDS TWO HEADED ARROW,zbUPWARDS TWO HEADED ARROW
yRIGHTWARDS TWO HEADED ARROW,zcDOWNWARDS TWO HEADED ARROW,zbLEFTWARDS ARROW WITH TAIL
zaRIGHTWARDS ARROW WITH TAIL,zbLEFTWARDS ARROW FROM BAR,yUPWARDS ARROW FROM BAR
wRIGHTWARDS ARROW FROM BAR,zaDOWNWARDS ARROW FROM BAR,yUP DOWN ARROW WITH BASE
xLEFTWARDS ARROW WITH HOOK,zaRIGHTWARDS ARROW WITH HOOK,zbLEFTWARDS ARROW WITH LOOP
zaRIGHTWARDS ARROW WITH LOOP,zbLEFT RIGHT WAVE ARROW,kARROW WITH STROKE,zdDOWNWARDS ZIGZAG ARROW
wUPWARDS ARROW WITH TIP LEFTWARDS,jRIGHTWARDS,ziDOWNWARDS ARROW WITH TIP LEFTWARDS,jRIGHTWARDS
zkRIGHTWARDS ARROW WITH CORNER DOWNWARDS,znDOWNWARDS ARROW WITH CORNER LEFTWARDS
zmANTICLOCKWISE TOP SEMICIRCLE ARROW,zjCLOCKWISE TOP SEMICIRCLE ARROW
zfNORTH WEST ARROW TO LONG BAR,zdLEFTWARDS ARROW TO BAR OVER RIGHTWARDS ARROW TO BAR
zzbANTICLOCKWISE OPEN CIRCLE ARROW,zgCLOCKWISE OPEN CIRCLE ARROW
zcLEFTWARDS HARPOON WITH BARB UPWARDS,hDOWNWARDS,zmUPWARDS HARPOON WITH BARB RIGHTWARDS,kLEFTWARDS
zkRIGHTWARDS HARPOON WITH BARB UPWARDS,hDOWNWARDS,znDOWNWARDS HARPOON WITH BARB RIGHTWARDS
kLEFTWARDS,zmRIGHTWARDS ARROW OVER LEFTWARDS ARROW,zmUPWARDS ARROW LEFTWARDS OF DOWNWARDS ARROW
zrLEFTWARDS ARROW OVER RIGHTWARDS ARROW,zcPAIRED ARROWS,xUPWARDS PAIRED ARROWS
vRIGHTWARDS PAIRED ARROWS,yDOWNWARDS PAIRED ARROWS,xLEFTWARDS HARPOON OVER RIGHTWARDS HARPOON
zqRIGHTWARDS HARPOON OVER LEFTWARDS HARPOON,zqLEFTWARDS DOUBLE ARROW WITH STROKE
zf RIGHT DOUBLE ARROW WITH STROKE,zkRIGHTWARDS DOUBLE ARROW WITH STROKE,zkLEFTWARDS DOUBLE ARROW
wUPWARDS DOUBLE ARROW,uRIGHTWARDS DOUBLE ARROW,xDOWNWARDS DOUBLE ARROW,wLEFT RIGHT DOUBLE ARROW
xUP DOWN DOUBLE ARROW,uNORTH WEST DOUBLE ARROW,rEAST DOUBLE ARROW,xSOUTH EAST DOUBLE ARROW
rWEST DOUBLE ARROW,xLEFTWARDS TRIPLE ARROW,wRIGHTWARDS TRIPLE ARROW,xLEFTWARDS SQUIGGLE ARROW
yRIGHTWARDS SQUIGGLE ARROW,zaUPWARDS ARROW WITH DOUBLE STROKE,zhDOWNWARDS ARROW WITH DOUBLE STROKE
zjLEFTWARDS DASHED ARROW,wUPWARDS DASHED ARROW,uRIGHTWARDS DASHED ARROW,xDOWNWARDS DASHED ARROW
wLEFTWARDS ARROW TO BAR,wRIGHTWARDS ARROW TO BAR,xLEFTWARDS WHITE ARROW,vUPWARDS WHITE ARROW
tRIGHTWARDS WHITE ARROW,wDOWNWARDS WHITE ARROW,vUPWARDS WHITE ARROW FROM BAR,iON PEDESTAL
a WITH HORIZONTAL BAR,oVERTICAL BAR,zkDOUBLE ARROW,a ON PEDESTAL,znRIGHTWARDS WHITE ARROW FROM WALL
zhNORTH WEST ARROW TO CORNER,zbSOUTH EAST ARROW TO CORNER,zbUP DOWN WHITE ARROW
tRIGHT ARROW WITH SMALL CIRCLE,zeDOWNWARDS ARROW LEFTWARDS OF UPWARDS ARROW
zrTHREE RIGHTWARDS ARROWS,xLEFTWARDS ARROW WITH VERTICAL STROKE
zlRIGHTWARDS ARROW WITH VERTICAL STROKE,zmLEFT RIGHT ARROW WITH VERTICAL STROKE
ziWARDS ARROW WITH DOUBLE VERTICAL STROKE,zsRIGHTWARDS ARROW WITH DOUBLE VERTICAL STROKE
ztLEFT RIGHT ARROW WITH DOUBLE VERTICAL STROKE,zpWARDS OPEN-HEADED ARROW
zcRIGHTWARDS OPEN-HEADED ARROW,zdLEFT RIGHT OPEN-HEADED ARROW,zdFOR ALL,hCOMPLEMENT
kPARTIAL DIFFERENTIAL,uTHERE EXISTS,gDOES NOT EXIST,uEMPTY SET,jINCREMENT,jNABLA,fELEMENT OF
kNOT AN ELEMENT OF,rSMALL ELEMENT OF,qCONTAINS AS MEMBER,sDOES NOT CONTAIN AS MEMBER
zbSMALL CONTAINS AS MEMBER,yEND OF PROOF,mN-ARY PRODUCT,hCOPRODUCT,jSUMMATION,pMINUS SIGN
f-OR-PLUS SIGN,sDOT PLUS,hIVISION SLASH,oSET MINUS,jASTERISK OPERATOR,rRING OPERATOR
nBULLET OPERATOR,pSQUARE ROOT,lCUBE ROOT,jFOURTH ROOT,lPROPORTIONAL TO,pINFINITY,iRIGHT ANGLE
lANGLE,fMEASURED ANGLE,oSPHERICAL ANGLE,pDIVIDES,gOES NOT DIVIDE,pPARALLEL TO,lNOT PARALLEL TO
pLOGICAL AND,dOR,kINTERSECTION,mUNION,fINTEGRAL,iDOUBLE INTEGRAL,pTRIPLE INTEGRAL,pCONTOUR INTEGRAL
qSURFACE INTEGRAL,qVOLUME INTEGRAL,pCLOCKWISE INTEGRAL,iCONTOUR INTEGRAL
zbANTICLOCKWISE CONTOUR INTEGRAL,zfTHEREFORE,jBECAUSE,hRATIO,fPROPORTION,kDOT MINUS,jEXCESS
gGEOMETRIC PROPORTION,uHOMOTHETIC,kTILDE OPERATOR,oREVERSED TILDE,oINVERTED LAZY S,pSINE WAVE
jWREATH PRODUCT,oNOT TILDE,jMINUS TILDE,lASYMPTOTICALLY EQUAL TO,xNOT ASYMPTOTICALLY EQUAL TO
zcAPPROXIMATELY EQUAL TO,iBUT NOT ACTUALLY EQUAL TO,zoNEITHER APPROXIMATELY NOR ACTUALLY EQUAL TO
zsALMOST EQUAL TO,pNOT ALMOST EQUAL TO,tALMOST EQUAL OR EQUAL TO,yTRIPLE TILDE,mALL EQUAL TO
mEQUIVALENT TO,nGEOMETRICALLY EQUIVALENT TO,zcDIFFERENCE BETWEEN,sAPPROACHES THE LIMIT
uGEOMETRICALLY EQUAL TO,wAPPROXIMATELY EQUAL TO OR THE IMAGE OF
znIMAGE OF OR APPROXIMATELY EQUAL TO,zjCOLON EQUALS,mEQUALS COLON,mRING IN EQUAL TO,lEQUAL TO
nCORRESPONDS TO,oESTIMATES,iQUIANGULAR TO,oSTAR EQUALS,lDELTA EQUAL TO,oEQUAL TO BY DEFINITION
wMEASURED BY,lQUESTIONED EQUAL TO,tNOT EQUAL TO,mIDENTICAL TO,mNOT IDENTICAL TO
qSTRICTLY EQUIVALENT TO,wLESS-THAN OR EQUAL TO,vGREATER-THAN OR EQUAL TO,yLESS-THAN OVER EQUAL TO
xGREATER-THAN OVER EQUAL TO,zbLESS-THAN BUT NOT EQUAL TO,zbGREATER-THAN BUT NOT EQUAL TO
zeMUCH LESS-THAN,jGREATER-THAN,rBETWEEN,hNOT EQUIVALENT TO,nLESS-THAN,jGREATER-THAN
pEITHER LESS-THAN NOR EQUAL TO,wGREATER-THAN NOR EQUAL TO,ziLESS-THAN OR EQUIVALENT TO
zbGREATER-THAN OR EQUIVALENT TO,zeNEITHER LESS-THAN NOR EQUIVALENT TO
zcGREATER-THAN NOR EQUIVALENT TO,znLESS-THAN OR GREATER-THAN,zaGREATER-THAN OR LESS-THAN
zaNEITHER LESS-THAN NOR GREATER-THAN,zbGREATER-THAN NOR LESS-THAN,zjPRECEDES,iSUCCEEDS
iPRECEDES OR EQUAL TO,uSUCCEEDS OR EQUAL TO,uPRECEDES OR EQUIVALENT TO,zaSUCCEEDS OR EQUIVALENT TO
zaDOES NOT PRECEDE,hSUCCEED,qSUBSET OF,hPERSET OF,lNOT A SUBSET OF,hPERSET OF
rSUBSET OF OR EQUAL TO,tPERSET OF OR EQUAL TO,xNEITHER A SUBSET OF NOR EQUAL TO
uPERSET OF NOR EQUAL TO,zjSUBSET OF WITH NOT EQUAL TO,zaPERSET OF WITH NOT EQUAL TO,zeMULTISET
a MULTIPLICATION,oUNION,oSQUARE IMAGE OF,iORIGINAL OF,lIMAGE OF OR EQUAL TO
uORIGINAL OF OR EQUAL TO,xCAP,cUP,kCIRCLED PLUS,eMINUS,fTIMES,fDIVISION SLASH,nOT OPERATOR
mRING OPERATOR,nASTERISK OPERATOR,rEQUALS,gDASH,mSQUARED PLUS,eMINUS,fTIMES,fDOT OPERATOR
uRIGHT TACK,kLEFT TACK,jDOWN TACK,jUP TACK,hASSERTION,jMODELS,gTRUE,eFORCES
gTRIPLE VERTICAL BAR RIGHT TURNSTILE,zkDOUBLE VERTICAL BAR DOUBLE RIGHT TURNSTILE,zpES NOT PROVE
oNOT TRUE,iDOES NOT FORCE,oNEGATED DOUBLE VERTICAL BAR DOUBLE RIGHT TURNSTILE
zzaPRECEDES UNDER RELATION,xSUCCEEDS UNDER RELATION,xNORMAL SUBGROUP OF
sCONTAINS AS NORMAL SUBGROUP,zcNORMAL SUBGROUP OF OR EQUAL TO
zfCONTAINS AS NORMAL SUBGROUP OR EQUAL TO,zoORIGINAL OF,lIMAGE OF,iMULTIMAP
iHERMITIAN CONJUGATE MATRIX,zbINTERCALATE,lXOR,dNAND,dOR,dRIGHT ANGLE WITH ARC,oTRIANGLE
oN-ARY LOGICAL AND,dOR,kINTERSECTION,mUNION,lDIAMOND OPERATOR,pOT OPERATOR,mSTAR OPERATOR
nDIVISION TIMES,oBOWTIE,gLEFT NORMAL FACTOR SEMIDIRECT PRODUCT
zmRIGHT NORMAL FACTOR SEMIDIRECT PRODUCT,znLEFT SEMIDIRECT PRODUCT,xRIGHT SEMIDIRECT PRODUCT
xEVERSED TILDE EQUALS,vCURLY LOGICAL OR,cAND,rDOUBLE SUBSET,ePERSET,iINTERSECTION,mUNION,mPITCHFORK
jEQUAL AND PARALLEL TO,vLESS-THAN WITH DOT,sGREATER-THAN WITH DOT,vVERY MUCH LESS-THAN
jGREATER-THAN,wLESS-THAN EQUAL TO OR GREATER-THAN,zjGREATER-THAN EQUAL TO OR LESS-THAN
zjEQUAL TO OR LESS-THAN,jGREATER-THAN,mPRECEDES,iSUCCEEDS,uDOES NOT PRECEDE OR EQUAL
qSUCCEED OR EQUAL,zaNOT SQUARE IMAGE OF OR EQUAL TO,uORIGINAL OF OR EQUAL TO
zjSQUARE IMAGE OF OR NOT EQUAL TO,yORIGINAL OF OR NOT EQUAL TO,zjLESS-THAN BUT NOT EQUIVALENT TO
zgGREATER-THAN BUT NOT EQUIVALENT TO,zjPRECEDES BUT NOT EQUIVALENT TO
zfSUCCEEDS BUT NOT EQUIVALENT TO,zfNOT NORMAL SUBGROUP OF,wDOES NOT CONTAIN AS NORMAL SUBGROUP
zkNOT NORMAL SUBGROUP OF OR EQUAL TO,zjDOES NOT CONTAIN AS NORMAL SUBGROUP OR EQUAL
ztVERTICAL ELLIPSIS,rMIDLINE HORIZONTAL ELLIPSIS,zcUP RIGHT DIAGONAL ELLIPSIS
zbDOWN RIGHT DIAGONAL ELLIPSIS,zdELEMENT OF WITH LONG HORIZONTAL STROKE
wVERTICAL BAR AT END OF HORIZONTAL STROKE
zzgSMALL ELEMENT OF WITH VERTICAL BAR AT END OF HORIZONTAL STROKE,zzmELEMENT OF WITH DOT ABOVE
jOVERBAR,xSMALL ELEMENT OF WITH OVERBAR,zeELEMENT OF WITH UNDERBAR,iTWO HORIZONTAL STROKES
znCONTAINS WITH LONG HORIZONTAL STROKE,wVERTICAL BAR AT END OF HORIZONTAL STROKE
zzeSMALL CONTAINS WITH VERTICAL BAR AT END OF HORIZONTAL STROKE,zzkCONTAINS WITH OVERBAR
vSMALL CONTAINS WITH OVERBAR,zcZ NOTATION BAG MEMBERSHIP,zaDIAMETER SIGN,nELECTRIC ARROW,oHOUSE
fUP ARROWHEAD,mDOWN ARROWHEAD,oPROJECTIVE,jERSPECTIVE,lWAVY LINE,jLEFT CEILING,mRIGHT CEILING
nLEFT FLOOR,kRIGHT FLOOR,lBOTTOM RIGHT CROP,kLEFT CROP,qTOP RIGHT CROP,kLEFT CROP
nREVERSED NOT SIGN,rSQUARE LOZENGE,oARC,dSEGMENT,fCTOR,gTELEPHONE RECORDER,sPOSITION INDICATOR
sVIEWDATA SQUARE,pPLACE OF INTEREST SIGN,wTURNED NOT SIGN,pWATCH,fHOURGLASS,jTOP LEFT CORNER
lRIGHT CORNER,qBOTTOM LEFT CORNER,lRIGHT CORNER,tTOP HALF INTEGRAL,rBOTTOM HALF INTEGRAL,uFROWN
fSMILE,fUP ARROWHEAD BETWEEN TWO HORIZONTAL BARS,zpOPTION KEY,kERASE TO THE RIGHT
sX IN A RECTANGLE BOX,uKEYBOARD,iLEFT-POINTING ANGLE BRACKET,zcRIGHT-POINTING ANGLE BRACKET
zdERASE TO THE LEFT,rBENZENE RING,mCYLINDRICITY,mALL AROUND-PROFILE,sSYMMETRY,iTOTAL RUNOUT
mDIMENSION ORIGIN,qCONICAL TAPER,nSLOPE,fCOUNTERBORE,eSINK,lAPL FUNCTIONAL SYMBOL I-BEAM
gSQUISH QUAD,lQUAD EQUAL,fDIVIDE,eAMOND,hJOT,dCIRCLE,lCIRCLE STILE,fJOT,kSLASH BAR,jBACKSLASH BAR
nQUAD SLASH,fBACKSLASH,jLESS-THAN,jGREATER-THAN,rLEFTWARDS VANE,oRIGHTWARDS VANE
pQUAD LEFTWARDS ARROW,pRIGHTWARDS ARROW,vCIRCLE BACKSLASH,qDOWN TACK UNDERBAR,rELTA STILE
lQUAD DOWN CARET,jELTA,kDOWN TACK JOT,nUPWARDS VANE,mQUAD UPWARDS ARROW,sUP TACK OVERBAR,pDEL STILE
jQUAD UP CARET,iDEL,iUP TACK JOT,lDOWNWARDS VANE,oQUAD DOWNWARDS ARROW,sOTE UNDERBAR
oDELTA UNDERBAR,nIAMOND UNDERBAR,qJOT UNDERBAR,mCIRCLE UNDERBAR,pUP SHOE JOT,lQUOTE QUAD
kCIRCLE STAR,lQUAD COLON,kUP TACK DIAERESIS,rDEL DIAERESIS,nSTAR DIAERESIS,oJOT DIAERESIS
nCIRCLE DIAERESIS,qDOWN SHOE STILE,pLEFT SHOE STILE,pTILDE DIAERESIS,pGREATER-THAN DIAERESIS
wCOMMA BAR,jDEL TILDE,jZILDE,fSTILE TILDE,kEMICOLON UNDERBAR,sQUAD NOT EQUAL,jQUESTION
nDOWN CARET TILDE,qUP CARET TILDE,oIOTA,eRHO,dOMEGA,fALPHA UNDERBAR,oEPSILON UNDERBAR
qIOTA UNDERBAR,nOMEGA UNDERBAR,oALPHA,zcNOT CHECK MARK,oRIGHT ANGLE WITH DOWNWARDS ZIGZAG ARROW
zoSHOULDERED OPEN BOX,tBELL SYMBOL,lVERTICAL LINE WITH MIDDLE DOT,zeINSERTION SYMBOL
qCONTINUOUS UNDERLINE SYMBOL,zcDISCONTINUOUS UNDERLINE SYMBOL,zfEMPHASIS SYMBOL,pCOMPOSITION SYMBOL
sWHITE SQUARE WITH CENTRE VERTICAL LINE,znENTER SYMBOL,mALTERNATIVE KEY SYMBOL,wHELM SYMBOL
lCIRCLED HORIZONTAL BAR WITH NOTCH,zaTRIANGLE DOWN,vBROKEN CIRCLE WITH NORTHWEST ARROW
zjUNDO SYMBOL,lMONOSTABLE SYMBOL,rHYSTERESIS SYMBOL,rOPEN-CIRCUIT-OUTPUT H-TYPE SYMBOL
nL-TYPE SYMBOL,ziPASSIVE-PULL-DOWN-OUTPUT SYMBOL,sUP-OUTPUT SYMBOL,zeDIRECT CURRENT SYMBOL FORM TWO
zfSOFTWARE-FUNCTION SYMBOL,yAPL FUNCTIONAL SYMBOL QUAD,zbDECIMAL SEPARATOR KEY SYMBOL
zdPREVIOUS PAGE,nNEXT PAGE,jPRINT SCREEN SYMBOL,tCLEAR SCREEN SYMBOL,tLEFT PARENTHESIS UPPER HOOK
kEXTENSION,jLOWER HOOK,zcRIGHT PARENTHESIS UPPER HOOK,kEXTENSION,jLOWER HOOK
zdLEFT SQUARE BRACKET UPPER CORNER,mEXTENSION,jLOWER CORNER,zhRIGHT SQUARE BRACKET UPPER CORNER
mEXTENSION,jLOWER CORNER,ziLEFT CURLY BRACKET UPPER HOOK,kMIDDLE PIECE,mLOWER HOOK
zeCURLY BRACKET EXTENSION,xRIGHT CURLY BRACKET UPPER HOOK,kMIDDLE PIECE,mLOWER HOOK
zfINTEGRAL EXTENSION,sHORIZONTAL LINE EXTENSION,zaUPPER LEFT OR LOWER RIGHT CURLY BRACKET SECTION
zqRIGHT OR LOWER LEFT CURLY BRACKET SECTION,zwSUMMATION TOP,dBOTTOM,qTOP SQUARE BRACKET
sBOTTOM SQUARE BRACKET,a OVER TOP SQUARE BRACKET,zuRADICAL SYMBOL BOTTOM,vLEFT VERTICAL BOX LINE
wRIGHT VERTICAL BOX LINE,xHORIZONTAL SCAN LINE-1,b3,b7,b9
wDENTISTRY SYMBOL LIGHT VERTICAL AND TOP RIGHT,jBOTTOM RIGHT,qWITH CIRCLE
uDOWN AND HORIZONTAL WITH CIRCLE,zgUP AND HORIZONTAL WITH CIRCLE,zeVERTICAL WITH TRIANGLE
wDOWN AND HORIZONTAL WITH TRIANGLE,ziUP AND HORIZONTAL WITH TRIANGLE,zgVERTICAL AND WAVE
rDOWN AND HORIZONTAL WITH WAVE,zeUP AND HORIZONTAL WITH WAVE,zcDOWN AND HORIZONTAL
tUP AND HORIZONTAL,rVERTICAL AND TOP LEFT,iBOTTOM LEFT,zwSQUARE FOOT,lRETURN SYMBOL,nEJECT SYMBOL
mVERTICAL LINE EXTENSION,xMETRICAL BREVE,fLONG OVER SHORT,pSHORT OVER LONG,pLONG OVER TWO SHORTS
uTWO SHORTS OVER LONG,jJOINED,qRISEME,gETRASEME,jPENTASEME,sEARTH GROUND,mFUSE,eTOP PARENTHESIS
pBOTTOM PARENTHESIS,sTOP CURLY BRACKET,rBOTTOM CURLY BRACKET,uTOP TORTOISE SHELL BRACKET
zbBOTTOM TORTOISE SHELL BRACKET,zeWHITE TRAPEZIUM,pBENZENE RING WITH CIRCLE,ySTRAIGHTNESS,mFLATNESS
iAC CURRENT,kELECTRICAL INTERSECTION,xDECIMAL EXPONENT SYMBOL,xBLACK RIGHT-POINTING DOUBLE TRIANGLE
zfLEFT-POINTING DOUBLE TRIANGLE,zeUP-POINTING DOUBLE TRIANGLE,zcDOWN-POINTING DOUBLE TRIANGLE
zeRIGHT-POINTING DOUBLE TRIANGLE WITH VERTICAL BAR
zxLEFT-POINTING DOUBLE TRIANGLE WITH VERTICAL BAR
zwRIGHT-POINTING TRIANGLE WITH DOUBLE VERTICAL BAR,zzeALARM CLOCK,lSTOPWATCH,jTIMER CLOCK
lHOURGLASS WITH FLOWING SAND,zcBLACK MEDIUM LEFT-POINTING TRIANGLE,wRIGHT-POINTING TRIANGLE
xUP-POINTING TRIANGLE,uDOWN-POINTING TRIANGLE,zkDOUBLE VERTICAL BAR,tBLACK SQUARE FOR STOP
pCIRCLE FOR RECORD,xPOWER SYMBOL,gON-OFF SYMBOL,l SYMBOL,jSLEEP SYMBOL,sOBSERVER EYE SYMBOL
tSYMBOL FOR NULL,eSTART OF HEADING,hTEXT,nEND OF TEXT,dRANSMISSION,rQUIRY,hACKNOWLEDGE,lBELL
dACKSPACE,jHORIZONTAL TABULATION,vLINE FEED,jVERTICAL TABULATION,tFORM FEED,jCARRIAGE RETURN
pSHIFT OUT,dIN,iDATA LINK ESCAPE,pEVICE CONTROL ONE,dTWO,cHREE,fFOUR,tNEGATIVE ACKNOWLEDGE
uSYNCHRONOUS IDLE,qEND OF TRANSMISSION BLOCK,zaCANCEL,gEND OF MEDIUM,nSUBSTITUTE,kESCAPE
gFILE SEPARATOR,oGROUP SEPARATOR,pRECORD SEPARATOR,qUNIT SEPARATOR,oSPACE,fDELETE,rBLANK SYMBOL
mOPEN BOX,iSYMBOL FOR NEWLINE,hDELETE FORM TWO,pSUBSTITUTE FORM TWO,+25,zfOCR HOOK,eCHAIR,fFORK
eINVERTED FORK,nBELT BUCKLE,kOW TIE,gRANCH BANK IDENTIFICATION,zbAMOUNT OF CHECK,pDASH
eCUSTOMER ACCOUNT NUMBER,xDOUBLE BACKSLASH,+21,uCIRCLED DIGIT ONE,dTWO,cHREE,fFOUR,dIVE,eSIX,cEVEN
fEIGHT,fNINE,kNUMBER TEN,dELEVEN,gTWELVE,fHIRTEEN,iFOURTEEN,hIFTEEN,hSIXTEEN,gEVENTEEN,jEIGHTEEN
iNINETEEN,iTWENTY,vPARENTHESIZED DIGIT ONE,dTWO,cHREE,fFOUR,dIVE,eSIX,cEVEN,fEIGHT,fNINE
kNUMBER TEN,dELEVEN,gTWELVE,fHIRTEEN,iFOURTEEN,hIFTEEN,hSIXTEEN,gEVENTEEN,jEIGHTEEN,iNINETEEN
iTWENTY,zcDIGIT ONE FULL STOP,nTWO FULL STOP,mHREE FULL STOP,pFOUR FULL STOP,nIVE FULL STOP
oSIX FULL STOP,mEVEN FULL STOP,pEIGHT FULL STOP,pNINE FULL STOP,uNUMBER TEN FULL STOP
nELEVEN FULL STOP,qTWELVE FULL STOP,pHIRTEEN FULL STOP,sFOURTEEN FULL STOP,rIFTEEN FULL STOP
rSIXTEEN FULL STOP,qEVENTEEN FULL STOP,tEIGHTEEN FULL STOP,sNINETEEN FULL STOP,sTWENTY FULL STOP
xPARENTHESIZED LATIN SMALL LETTER A,bB,bC,bD,bE,bF,bG,bH,bI,bJ,bK,bL,bM,bN,bO,bP,bQ,bR,bS,bT,bU,bV
bW,bX,bY,bZ,zjCIRCLED LATIN CAPITAL LETTER A,bB,bC,bD,bE,bF,bG,bH,bI,bJ,bK,bL,bM,bN,bO,bP,bQ,bR,bS
bT,bU,bV,bW,bX,bY,bZ,qSMALL LETTER A,bB,bC,bD,bE,bF,bG,bH,bI,bJ,bK,bL,bM,bN,bO,bP,bQ,bR,bS,bT,bU,bV
bW,bX,bY,bZ,uDIGIT ZERO,sNEGATIVE CIRCLED NUMBER ELEVEN,gTWELVE,fHIRTEEN,iFOURTEEN,hIFTEEN,hSIXTEEN
gEVENTEEN,jEIGHTEEN,iNINETEEN,iTWENTY,zfDOUBLE CIRCLED DIGIT ONE,dTWO,cHREE,fFOUR,dIVE,eSIX,cEVEN
fEIGHT,fNINE,kNUMBER TEN,zaNEGATIVE CIRCLED DIGIT ZERO,zcBOX DRAWINGS LIGHT HORIZONTAL
qHEAVY HORIZONTAL,qLIGHT VERTICAL,oHEAVY VERTICAL,oLIGHT TRIPLE DASH HORIZONTAL
zdHEAVY TRIPLE DASH HORIZONTAL,zdLIGHT TRIPLE DASH VERTICAL,zbHEAVY TRIPLE DASH VERTICAL
zbLIGHT QUADRUPLE DASH HORIZONTAL,zgHEAVY QUADRUPLE DASH HORIZONTAL,zgLIGHT QUADRUPLE DASH VERTICAL
zeHEAVY QUADRUPLE DASH VERTICAL,zeLIGHT DOWN AND RIGHT,uDOWN LIGHT AND RIGHT HEAVY
vHEAVY AND RIGHT LIGHT,zbHEAVY DOWN AND RIGHT,uLIGHT DOWN AND LEFT,tDOWN LIGHT AND LEFT HEAVY
uHEAVY AND LEFT LIGHT,zaHEAVY DOWN AND LEFT,tLIGHT UP AND RIGHT,sUP LIGHT AND RIGHT HEAVY
vHEAVY AND RIGHT LIGHT,yHEAVY UP AND RIGHT,sLIGHT UP AND LEFT,rUP LIGHT AND LEFT HEAVY
uHEAVY AND LEFT LIGHT,xHEAVY UP AND LEFT,rLIGHT VERTICAL AND RIGHT,yVERTICAL LIGHT AND RIGHT HEAVY
zfUP HEAVY AND RIGHT DOWN LIGHT,zeDOWN HEAVY AND RIGHT UP LIGHT,zeVERTICAL HEAVY AND RIGHT LIGHT
zfDOWN LIGHT AND RIGHT UP HEAVY,zeUP LIGHT AND RIGHT DOWN HEAVY,zeHEAVY VERTICAL AND RIGHT
yLIGHT VERTICAL AND LEFT,xVERTICAL LIGHT AND LEFT HEAVY,zeUP HEAVY AND LEFT DOWN LIGHT
zdDOWN HEAVY AND LEFT UP LIGHT,zdVERTICAL HEAVY AND LEFT LIGHT,zeDOWN LIGHT AND LEFT UP HEAVY
zdUP LIGHT AND LEFT DOWN HEAVY,zdHEAVY VERTICAL AND LEFT,xLIGHT DOWN AND HORIZONTAL
yEFT HEAVY AND RIGHT DOWN LIGHT,zgRIGHT HEAVY AND LEFT DOWN LIGHT,zgDOWN LIGHT AND HORIZONTAL HEAVY
zbHEAVY AND HORIZONTAL LIGHT,zgRIGHT LIGHT AND LEFT DOWN HEAVY,zgLEFT LIGHT AND RIGHT DOWN HEAVY
zgHEAVY DOWN AND HORIZONTAL,zaLIGHT UP AND HORIZONTAL,wEFT HEAVY AND RIGHT UP LIGHT
zeRIGHT HEAVY AND LEFT UP LIGHT,zeUP LIGHT AND HORIZONTAL HEAVY,zbHEAVY AND HORIZONTAL LIGHT
zeRIGHT LIGHT AND LEFT UP HEAVY,zeLEFT LIGHT AND RIGHT UP HEAVY,zeHEAVY UP AND HORIZONTAL
xLIGHT VERTICAL AND HORIZONTAL,zdEFT HEAVY AND RIGHT VERTICAL LIGHT
zkRIGHT HEAVY AND LEFT VERTICAL LIGHT,zkVERTICAL LIGHT AND HORIZONTAL HEAVY
zkUP HEAVY AND DOWN HORIZONTAL LIGHT,zjDOWN HEAVY AND UP HORIZONTAL LIGHT
zjVERTICAL HEAVY AND HORIZONTAL LIGHT,zkLEFT UP HEAVY AND RIGHT DOWN LIGHT
zjRIGHT UP HEAVY AND LEFT DOWN LIGHT,zjLEFT DOWN HEAVY AND RIGHT UP LIGHT
zjRIGHT DOWN HEAVY AND LEFT UP LIGHT,zjDOWN LIGHT AND UP HORIZONTAL HEAVY
zjUP LIGHT AND DOWN HORIZONTAL HEAVY,zjRIGHT LIGHT AND LEFT VERTICAL HEAVY
zkLEFT LIGHT AND RIGHT VERTICAL HEAVY,zkHEAVY VERTICAL AND HORIZONTAL
zeLIGHT DOUBLE DASH HORIZONTAL,zdHEAVY DOUBLE DASH HORIZONTAL,zdLIGHT DOUBLE DASH VERTICAL
zbHEAVY DOUBLE DASH VERTICAL,zbDOUBLE HORIZONTAL,kVERTICAL,nWN SINGLE AND RIGHT DOUBLE
xDOUBLE AND RIGHT SINGLE,zbUBLE DOWN AND RIGHT,tWN SINGLE AND LEFT DOUBLE,wDOUBLE AND LEFT SINGLE
zaUBLE DOWN AND LEFT,uUP SINGLE AND RIGHT DOUBLE,xDOUBLE AND RIGHT SINGLE,zbDOUBLE UP AND RIGHT
tUP SINGLE AND LEFT DOUBLE,wDOUBLE AND LEFT SINGLE,zaDOUBLE UP AND LEFT
sVERTICAL SINGLE AND RIGHT DOUBLE,xDOUBLE AND RIGHT SINGLE,zhDOUBLE VERTICAL AND RIGHT
zaVERTICAL SINGLE AND LEFT DOUBLE,wDOUBLE AND LEFT SINGLE,zgDOUBLE VERTICAL AND LEFT
wWN SINGLE AND HORIZONTAL DOUBLE,zdDOUBLE AND HORIZONTAL SINGLE,zgUBLE DOWN AND HORIZONTAL
zbUP SINGLE AND HORIZONTAL DOUBLE,zdDOUBLE AND HORIZONTAL SINGLE,zgDOUBLE UP AND HORIZONTAL
yVERTICAL SINGLE AND HORIZONTAL DOUBLE,zdDOUBLE AND HORIZONTAL SINGLE
zmDOUBLE VERTICAL AND HORIZONTAL,zfLIGHT ARC DOWN AND RIGHT,fLEFT,nUP AND LEFT,eRIGHT
qDIAGONAL UPPER RIGHT TO LOWER LEFT,tLEFT TO LOWER RIGHT,zaCROSS,oLEFT,eUP,cRIGHT,fDOWN,kHEAVY LEFT
eUP,cRIGHT,fDOWN,kLIGHT LEFT AND HEAVY RIGHT,uUP AND HEAVY DOWN,xHEAVY LEFT AND LIGHT RIGHT
uUP AND LIGHT DOWN,zlUPPER HALF BLOCK,qLOWER ONE EIGHTH BLOCK,mQUARTER BLOCK,rTHREE EIGHTHS BLOCK
tHALF BLOCK,kFIVE EIGHTHS BLOCK,sTHREE QUARTERS BLOCK,uSEVEN EIGHTHS BLOCK,zaFULL BLOCK
kLEFT SEVEN EIGHTHS BLOCK,tTHREE QUARTERS BLOCK,uFIVE EIGHTHS BLOCK,sHALF BLOCK
kTHREE EIGHTHS BLOCK,tONE QUARTER BLOCK,nEIGHTH BLOCK,vRIGHT HALF BLOCK,qLIGHT SHADE,lMEDIUM SHADE
mDARK SHADE,kUPPER ONE EIGHTH BLOCK,wRIGHT ONE EIGHTH BLOCK,wQUADRANT LOWER LEFT,eRIGHT,lUPPER LEFT
a AND LOWER LEFT AND LOWER RIGHT,uRIGHT,lUPPER RIGHT AND LOWER LEFT,eRIGHT,zlRIGHT,a AND LOWER LEFT
a AND LOWER RIGHT,zzbBLACK SQUARE,mWHITE SQUARE,a WITH ROUNDED CORNERS
uCONTAINING BLACK SMALL SQUARE,zrSQUARE WITH HORIZONTAL FILL,pVERTICAL FILL
nORTHOGONAL CROSSHATCH FILL,zbUPPER LEFT TO LOWER RIGHT FILL,yRIGHT TO LOWER LEFT FILL
zfDIAGONAL CROSSHATCH FILL,zlBLACK SMALL SQUARE,sWHITE SMALL SQUARE,sBLACK RECTANGLE
pWHITE RECTANGLE,pBLACK VERTICAL RECTANGLE,yWHITE VERTICAL RECTANGLE,yBLACK PARALLELOGRAM
tWHITE PARALLELOGRAM,tBLACK UP-POINTING TRIANGLE,zbWHITE UP-POINTING TRIANGLE
zbBLACK UP-POINTING SMALL TRIANGLE,zhWHITE UP-POINTING SMALL TRIANGLE
zhBLACK RIGHT-POINTING TRIANGLE,zeWHITE RIGHT-POINTING TRIANGLE
zeBLACK RIGHT-POINTING SMALL TRIANGLE,zkWHITE RIGHT-POINTING SMALL TRIANGLE
zkBLACK RIGHT-POINTING POINTER,zdWHITE RIGHT-POINTING POINTER,zdBLACK DOWN-POINTING TRIANGLE
zdWHITE DOWN-POINTING TRIANGLE,zdBLACK DOWN-POINTING SMALL TRIANGLE
zjWHITE DOWN-POINTING SMALL TRIANGLE,zjBLACK LEFT-POINTING TRIANGLE,zdWHITE LEFT-POINTING TRIANGLE
zdBLACK LEFT-POINTING SMALL TRIANGLE,zjWHITE LEFT-POINTING SMALL TRIANGLE
zjBLACK LEFT-POINTING POINTER,zcWHITE LEFT-POINTING POINTER,zcBLACK DIAMOND,nWHITE DIAMOND
a CONTAINING BLACK SMALL DIAMOND,ztFISHEYE,hLOZENGE,hWHITE CIRCLE,mDOTTED CIRCLE
nCIRCLE WITH VERTICAL FILL,zaBULLSEYE,hLACK CIRCLE,mCIRCLE WITH LEFT HALF BLACK,pRIGHT HALF BLACK
qLOWER HALF BLACK,qUPPER HALF BLACK,kRIGHT QUADRANT BLACK,zbALL BUT UPPER LEFT QUADRANT BLACK
zuLEFT HALF BLACK CIRCLE,wRIGHT HALF BLACK CIRCLE,xINVERSE BULLET,gWHITE CIRCLE
uUPPER HALF INVERSE WHITE CIRCLE,zgLOWER HALF INVERSE WHITE CIRCLE
zgUPPER LEFT QUADRANT CIRCULAR ARC,zbRIGHT QUADRANT CIRCULAR ARC
ziLOWER RIGHT QUADRANT CIRCULAR ARC,zcLEFT QUADRANT CIRCULAR ARC,zhUPPER HALF CIRCLE
rLOWER HALF CIRCLE,rBLACK LOWER RIGHT TRIANGLE,oLEFT TRIANGLE,tUPPER LEFT TRIANGLE,nRIGHT TRIANGLE
zbWHITE BULLET,mSQUARE WITH LEFT HALF BLACK,pRIGHT HALF BLACK,qUPPER LEFT DIAGONAL HALF BLACK
zfLOWER RIGHT DIAGONAL HALF BLACK,zsWHITE SQUARE WITH VERTICAL BISECTING LINE
zkUP-POINTING TRIANGLE WITH DOT,zkUP-POINTING TRIANGLE WITH LEFT HALF BLACK,pRIGHT HALF BLACK
zrLARGE CIRCLE,mWHITE SQUARE WITH UPPER LEFT QUADRANT,tLOWER LEFT QUADRANT,nRIGHT QUADRANT
uUPPER RIGHT QUADRANT,zhCIRCLE WITH UPPER LEFT QUADRANT,tLOWER LEFT QUADRANT,nRIGHT QUADRANT
uUPPER RIGHT QUADRANT,znUPPER LEFT TRIANGLE,nRIGHT TRIANGLE,uLOWER LEFT TRIANGLE
tWHITE MEDIUM SQUARE,tBLACK MEDIUM SQUARE,tWHITE MEDIUM SMALL SQUARE,zaBLACK MEDIUM SMALL SQUARE
zaLOWER RIGHT TRIANGLE,uBLACK SUN WITH RAYS,tCLOUD,fUMBRELLA,iSNOWMAN,hCOMET,fBLACK STAR
kWHITE STAR,kLIGHTNING,jTHUNDERSTORM,mSUN,dASCENDING NODE,oDESCENDING NODE,pCONJUNCTION,lOPPOSITION
kBLACK TELEPHONE,pWHITE TELEPHONE,pBALLOT BOX,a WITH CHECK,fX,rSALTIRE,hUMBRELLA WITH RAIN DROPS
yHOT BEVERAGE,mWHITE SHOGI PIECE,rBLACK SHOGI PIECE,rSHAMROCK,iREVERSED ROTATED FLORAL HEART BULLET
zlBLACK LEFT POINTING INDEX,tRIGHT POINTING INDEX,zbWHITE LEFT POINTING INDEX,tUP POINTING INDEX
rRIGHT POINTING INDEX,uDOWN POINTING INDEX,zaSKULL AND CROSSBONES,uCAUTION SIGN,mRADIOACTIVE SIGN
qBIOHAZARD SIGN,oCADUCEUS,iANKH,eORTHODOX CROSS,oCHI RHO,gROSS OF LORRAINE,iJERUSALEM
sSTAR AND CRESCENT,rFARSI SYMBOL,mADI SHAKTI,kHAMMER AND SICKLE,rPEACE SYMBOL,mYIN YANG
iTRIGRAM FOR HEAVEN,gLAKE,eFIRE,eTHUNDER,hWIND,dATER,fMOUNTAIN,iEARTH,rWHEEL OF DHARMA
nITE FROWNING FACE,nSMILING FACE,sBLACK SMILING FACE,sWHITE SUN WITH RAYS,tFIRST QUARTER MOON
sLAST QUARTER MOON,rMERCURY,hFEMALE SIGN,lEARTH,fMALE SIGN,jJUPITER,hSATURN,gURANUS,gNEPTUNE,hPLUTO
fARIES,fTAURUS,gGEMINI,gCANCER,gLEO,dVIRGO,fLIBRA,fSCORPIUS,hAGITTARIUS,lCAPRICORN,jAQUARIUS
iPISCES,gWHITE CHESS KING,eQUEEN,fROOK,eBISHOP,gKNIGHT,gPAWN,qBLACK CHESS KING,eQUEEN,fROOK,eBISHOP
gKNIGHT,gPAWN,kSPADE SUIT,qWHITE HEART SUIT,kDIAMOND SUIT,sBLACK CLUB SUIT,pWHITE SPADE SUIT
qBLACK HEART SUIT,kDIAMOND SUIT,sWHITE CLUB SUIT,pHOT SPRINGS,lQUARTER NOTE,mEIGHTH NOTE
lBEAMED EIGHTH NOTES,mSIXTEENTH NOTES,wMUSIC FLAT SIGN,jNATURAL SIGN,mSHARP SIGN,qWEST SYRIAC CROSS
rEAST SYRIAC CROSS,rUNIVERSAL RECYCLING SYMBOL,zbRECYCLING SYMBOL FOR TYPE-1 PLASTICS,k2 PLASTICS
k3 PLASTICS,k4 PLASTICS,k5 PLASTICS,k6 PLASTICS,k7 PLASTICS,pGENERIC MATERIALS
znBLACK UNIVERSAL RECYCLING SYMBOL,zhRECYCLED PAPER SYMBOL,vPARTIALLY-RECYCLED PAPER SYMBOL
zfERMANENT PAPER SIGN,uWHEELCHAIR SYMBOL,rDIE FACE-1,b2,b3,b4,b5,b6,kWHITE CIRCLE WITH DOT RIGHT
jTWO DOTS,zbBLACK CIRCLE WITH WHITE DOT RIGHT,pTWO WHITE DOTS,zhMONOGRAM FOR YANG,dIN
qDIGRAM FOR GREATER YANG,mLESSER YIN,cANG,lGREATER YIN,wWHITE FLAG,kBLACK FLAG,kHAMMER AND PICK
pANCHOR,gCROSSED SWORDS,oSTAFF OF AESCULAPIUS,tCALES,gALEMBIC,hFLOWER,gGEAR,eSTAFF OF HERMES
pATOM SYMBOL,lFLEUR-DE-LIS,mOUTLINED WHITE STAR,tTHREE LINES CONVERGING RIGHT,fLEFT,zcWARNING SIGN
mHIGH VOLTAGE SIGN,rDOUBLED FEMALE SIGN,lMALE SIGN,rINTERLOCKED FEMALE AND MALE SIGN
zhMALE AND FEMALE SIGN,pWITH STROKE SIGN,eAND MALE AND FEMALE SIGN,zqVERTICAL MALE WITH STROKE SIGN
zfHORIZONTAL MALE WITH STROKE SIGN,zhMEDIUM WHITE CIRCLE,mBLACK CIRCLE,mSMALL WHITE CIRCLE
yARRIAGE SYMBOL,pDIVORCE SYMBOL,oUNMARRIED PARTNERSHIP SYMBOL,zdCOFFIN,gFUNERAL URN,lNEUTER,gCERES
fPALLAS,gJUNO,eVESTA,fCHIRON,gBLACK MOON LILITH,rSEXTILE,fMISEXTILE,lQUINCUNX,iSESQUIQUADRATE
nOCCER BALL,lBASEBALL,iSQUARED KEY,lWHITE DRAUGHTS MAN,dKING,tBLACK DRAUGHTS MAN,dKING
tSNOWMAN WITHOUT SNOW,tUN BEHIND CLOUD,qRAIN,eBLACK SNOWMAN,nTHUNDER CLOUD AND RAIN
vURNED WHITE SHOGI PIECE,rBLACK SHOGI PIECE,yWHITE DIAMOND IN SQUARE,xCROSSING LANES,oDISABLED CAR
mOPHIUCHUS,jPICK,eCAR SLIDING,lHELMET WITH WHITE CROSS,xCIRCLED CROSSING LANES,vHAINS,gNO ENTRY
iALTERNATE ONE-WAY LEFT WAY TRAFFIC,zjBLACK TWO-WAY LEFT WAY TRAFFIC
zfWHITE TWO-WAY LEFT WAY TRAFFIC,zfBLACK LEFT LANE MERGE,vWHITE LEFT LANE MERGE,vDRIVE SLOW SIGN
pHEAVY WHITE DOWN-POINTING TRIANGLE,zjLEFT CLOSED ENTRY,rSQUARED SALTIRE
pFALLING DIAGONAL IN WHITE CIRCLE IN BLACK SQUARE,zxBLACK TRUCK,lRESTRICTED LEFT ENTRY-1,b2
xASTRONOMICAL SYMBOL FOR URANUS,zfHEAVY CIRCLE WITH STROKE AND TWO DOTS ABOVE,zsPENTAGRAM
jRIGHT-HANDED INTERLACED PENTAGRAM,ziLEFT-HANDED INTERLACED PENTAGRAM,zhINVERTED PENTAGRAM
sBLACK CROSS ON SHIELD,vSHINTO SHRINE,nCHURCH,fASTLE,gHISTORIC SITE,nGEAR WITHOUT HUB,h HANDLES
rMAP SYMBOL FOR LIGHTHOUSE,yOUNTAIN,iUMBRELLA ON GROUND,sFOUNTAIN,hLAG IN HOLE,lERRY,fSAILBOAT
hQUARE FOUR CORNERS,sKIER,fICE SKATE,jPERSON WITH BALL,qTENT,eJAPANESE BANK SYMBOL
uHEADSTONE GRAVEYARD SYMBOL,zbFUEL PUMP,jCUP ON BLACK SQUARE
tWHITE FLAG WITH HORIZONTAL MIDDLE BLACK STRIPE,zvBLACK SAFETY SCISSORS,vUPPER BLADE SCISSORS
uBLACK SCISSORS,oLOWER BLADE SCISSORS,uWHITE SCISSORS,iHEAVY CHECK MARK,wTELEPHONE LOCATION SIGN
wAPE DRIVE,kAIRPLANE,iENVELOPE,iRAISED FIST,eHAND,lVICTORY HAND,mWRITING HAND,mLOWER RIGHT PENCIL
sPENCIL,gUPPER RIGHT PENCIL,sWHITE NIB,jBLACK NIB,jCHECK MARK,kHEAVY CHECK MARK,qMULTIPLICATION X
qHEAVY MULTIPLICATION X,wBALLOT X,iHEAVY BALLOT X,oOUTLINED GREEK CROSS,uHEAVY GREEK CROSS
rOPEN CENTRE CROSS,rHEAVY OPEN CENTRE CROSS,xLATIN CROSS,lSHADOWED WHITE LATIN CROSS
zbOUTLINED LATIN CROSS,uMALTESE CROSS,nSTAR OF DAVID,nFOUR TEARDROP-SPOKED ASTERISK
yBALLOON-SPOKED ASTERISK,zdHEAVY FOUR BALLOON-SPOKED ASTERISK,zjFOUR CLUB-SPOKED ASTERISK
zaBLACK FOUR POINTED STAR,xWHITE FOUR POINTED STAR,xSPARKLES,hTRESS OUTLINED WHITE STAR
zbCIRCLED WHITE STAR,sOPEN CENTRE BLACK STAR,wBLACK CENTRE WHITE STAR,xOUTLINED BLACK STAR
tHEAVY OUTLINED BLACK STAR,zaPINWHEEL STAR,nSHADOWED WHITE STAR,tHEAVY ASTERISK
oOPEN CENTRE ASTERISK,uEIGHT SPOKED ASTERISK,pPOINTED BLACK STAR,kPINWHEEL STAR
zcSIX POINTED BLACK STAR,wEIGHT POINTED RECTILINEAR BLACK STAR
zlHEAVY EIGHT POINTED RECTILINEAR BLACK STAR,zrTWELVE POINTED BLACK STAR,zaSIXTEEN POINTED ASTERISK
yTEARDROP-SPOKED ASTERISK,yOPEN CENTRE TEARDROP-SPOKED ASTERISK,zlHEAVY TEARDROP-SPOKED ASTERISK
zfSIX PETALLED BLACK AND WHITE FLORETTE,zmBLACK FLORETTE,oWHITE FLORETTE
oEIGHT PETALLED OUTLINED BLACK FLORETTE,znCIRCLED OPEN CENTRE EIGHT POINTED STAR
znHEAVY TEARDROP-SPOKED PINWHEEL ASTERISK,zoSNOWFLAKE,jTIGHT TRIFOLIATE SNOWFLAKE
zbHEAVY CHEVRON SNOWFLAKE,xSPARKLE,hHEAVY SPARKLE,nBALLOON-SPOKED ASTERISK
xEIGHT TEARDROP-SPOKED PROPELLER ASTERISK,zpHEAVY EIGHT TEARDROP-SPOKED PROPELLER ASTERISK
zvCROSS MARK,kSHADOWED WHITE CIRCLE,vNEGATIVE SQUARED CROSS MARK
zcLOWER RIGHT DROP-SHADOWED WHITE SQUARE,znUPPER RIGHT DROP-SHADOWED WHITE SQUARE
znLOWER RIGHT SHADOWED WHITE SQUARE,ziUPPER RIGHT SHADOWED WHITE SQUARE
ziBLACK QUESTION MARK ORNAMENT,zdWHITE QUESTION MARK ORNAMENT,wEXCLAMATION MARK ORNAMENT
zgBLACK DIAMOND MINUS WHITE X,zcHEAVY EXCLAMATION MARK SYMBOL,zeLIGHT VERTICAL BAR
sMEDIUM VERTICAL BAR,tHEAVY VERTICAL BAR,mSINGLE TURNED COMMA QUOTATION MARK ORNAMENT
zlCOMMA QUOTATION MARK ORNAMENT,zlDOUBLE TURNED COMMA QUOTATION MARK ORNAMENT
zlCOMMA QUOTATION MARK ORNAMENT,zlLOW SINGLE COMMA QUOTATION MARK ORNAMENT
zlDOUBLE COMMA QUOTATION MARK ORNAMENT,zvCURVED STEM PARAGRAPH SIGN ORNAMENT
zkHEAVY EXCLAMATION MARK ORNAMENT,zaHEART EXCLAMATION MARK ORNAMENT,zgBLACK HEART
rROTATED HEAVY BLACK HEART BULLET,zhFLORAL HEART,mROTATED FLORAL HEART BULLET
zcMEDIUM LEFT PARENTHESIS ORNAMENT,zaRIGHT PARENTHESIS ORNAMENT
zbFLATTENED LEFT PARENTHESIS ORNAMENT,zaRIGHT PARENTHESIS ORNAMENT
zlLEFT-POINTING ANGLE BRACKET ORNAMENT,zlRIGHT-POINTING ANGLE BRACKET ORNAMENT
ztHEAVY LEFT-POINTING ANGLE QUOTATION MARK ORNAMENT,zsRIGHT-POINTING ANGLE QUOTATION MARK ORNAMENT
ztLEFT-POINTING ANGLE BRACKET ORNAMENT,zlRIGHT-POINTING ANGLE BRACKET ORNAMENT
zsLIGHT LEFT TORTOISE SHELL BRACKET ORNAMENT,zlRIGHT TORTOISE SHELL BRACKET ORNAMENT
zsMEDIUM LEFT CURLY BRACKET ORNAMENT,zcRIGHT CURLY BRACKET ORNAMENT
zkDINGBAT NEGATIVE CIRCLED DIGIT ONE,dTWO,cHREE,fFOUR,dIVE,eSIX,cEVEN,fEIGHT,fNINE,kNUMBER TEN
zcCIRCLED SANS-SERIF DIGIT ONE,dTWO,cHREE,fFOUR,dIVE,eSIX,cEVEN,fEIGHT,fNINE,kNUMBER TEN
zeNEGATIVE CIRCLED SANS-SERIF DIGIT ONE,dTWO,cHREE,fFOUR,dIVE,eSIX,cEVEN,fEIGHT,fNINE,kNUMBER TEN
zvHEAVY WIDE-HEADED RIGHTWARDS ARROW,zdPLUS SIGN,jMINUS SIGN,kDIVISION SIGN,nSOUTH EAST ARROW
qRIGHTWARDS ARROW,qNORTH EAST ARROW,wDRAFTING POINT RIGHTWARDS ARROW
zgHEAVY ROUND-TIPPED RIGHTWARDS ARROW,zkTRIANGLE-HEADED RIGHTWARDS ARROW
zhHEAVY TRIANGLE-HEADED RIGHTWARDS ARROW,znDASHED TRIANGLE-HEADED RIGHTWARDS ARROW
zoHEAVY DASHED TRIANGLE-HEADED RIGHTWARDS ARROW,zuBLACK RIGHTWARDS ARROW
wTHREE-D TOP-LIGHTED RIGHTWARDS ARROWHEAD,zhBOTTOM-LIGHTED RIGHTWARDS ARROWHEAD
zsBLACK RIGHTWARDS ARROWHEAD,zbHEAVY BLACK CURVED DOWNWARDS AND RIGHTWARDS ARROW
zfUPWARDS AND RIGHTWARDS ARROW,zwSQUAT BLACK RIGHTWARDS ARROW
zdHEAVY CONCAVE-POINTED BLACK RIGHTWARDS ARROW,ztRIGHT-SHADED WHITE RIGHTWARDS ARROW
zkLEFT-SHADED WHITE RIGHTWARDS ARROW,zjBACK-TILTED SHADOWED WHITE RIGHTWARDS ARROW
zsFRONT-TILTED SHADOWED WHITE RIGHTWARDS ARROW,ztHEAVY LOWER RIGHT-SHADOWED WHITE RIGHTWARDS ARROW
zsUPPER RIGHT-SHADOWED WHITE RIGHTWARDS ARROW,zyNOTCHED LOWER RIGHT-SHADOWED WHITE RIGHTWARDS ARROW
zzbCURLY LOOP,kNOTCHED UPPER RIGHT-SHADOWED WHITE RIGHTWARDS ARROW
zzbCIRCLED HEAVY WHITE RIGHTWARDS ARROW,zlWHITE-FEATHERED RIGHTWARDS ARROW
zhBLACK-FEATHERED SOUTH EAST ARROW,qRIGHTWARDS ARROW,qNORTH EAST ARROW
zhHEAVY BLACK-FEATHERED SOUTH EAST ARROW,qRIGHTWARDS ARROW,qNORTH EAST ARROW
znTEARDROP-BARBED RIGHTWARDS ARROW,zhHEAVY TEARDROP-SHANKED RIGHTWARDS ARROW
zoWEDGE-TAILED RIGHTWARDS ARROW,zeHEAVY WEDGE-TAILED RIGHTWARDS ARROW
zkOPEN-OUTLINED RIGHTWARDS ARROW,zfDOUBLE CURLY LOOP,rTHREE DIMENSIONAL ANGLE
xWHITE TRIANGLE CONTAINING SMALL WHITE TRIANGLE,zvPERPENDICULAR,nOPEN SUBSET,ePERSET
nLEFT S-SHAPED BAG DELIMITER,zcRIGHT S-SHAPED BAG DELIMITER,zdOR WITH DOT INSIDE
sREVERSE SOLIDUS PRECEDING SUBSET,zhSUPERSET PRECEDING SOLIDUS
zbVERTICAL BAR WITH HORIZONTAL STROKE,zkMATHEMATICAL RISING DIAGONAL,zdLONG DIVISION
nMATHEMATICAL FALLING DIAGONAL,zeSQUARED LOGICAL AND,dOR,sWHITE DIAMOND WITH CENTRED DOT
zfAND WITH DOT,mELEMENT OF OPENING UPWARDS,zbLOWER RIGHT CORNER WITH DOT
zcUPPER LEFT CORNER WITH DOT,zbLEFT OUTER JOIN,pRIGHT OUTER JOIN,qFULL OUTER JOIN,pLARGE UP TACK
hDOWN TACK,oEFT AND RIGHT DOUBLE TURNSTILE,qTACK,oMULTIMAP,mONG RIGHT TACK,kLEFT TACK
oUP TACK WITH CIRCLE ABOVE,zaLOZENGE DIVIDED BY HORIZONTAL RULE,zjWHITE CONCAVE-SIDED DIAMOND
a WITH LEFTWARDS TICK,oRIGHTWARDS TICK,zrSQUARE WITH LEFTWARDS TICK,oRIGHTWARDS TICK
ziMATHEMATICAL LEFT WHITE SQUARE BRACKET,zaRIGHT WHITE SQUARE BRACKET,zbLEFT ANGLE BRACKET
sRIGHT ANGLE BRACKET,tLEFT DOUBLE ANGLE BRACKET,zaRIGHT DOUBLE ANGLE BRACKET
zbLEFT WHITE TORTOISE SHELL BRACKET,ziRIGHT WHITE TORTOISE SHELL BRACKET
zjLEFT FLATTENED PARENTHESIS,zbRIGHT FLATTENED PARENTHESIS,zpUPWARDS QUADRUPLE ARROW
xDOWNWARDS QUADRUPLE ARROW,zaANTICLOCKWISE GAPPED CIRCLE ARROW,ziCLOCKWISE GAPPED CIRCLE ARROW
zeRIGHT ARROW WITH CIRCLED PLUS,zeLONG LEFTWARDS ARROW,pRIGHTWARDS ARROW,qLEFT RIGHT ARROW
mWARDS DOUBLE ARROW,wRIGHTWARDS DOUBLE ARROW,xLEFT RIGHT DOUBLE ARROW,tWARDS ARROW FROM BAR
yRIGHTWARDS ARROW FROM BAR,zaLEFTWARDS DOUBLE ARROW FROM BAR,zgRIGHTWARDS DOUBLE ARROW FROM BAR
vSQUIGGLE ARROW"

end SchemaDoc.Text.Names
