/-
SchemaDoc.Text.Names.From00000 — the names of the characters from U+0000 on.

The block holds Latin, Greek, Cyrillic and the scripts of the Near East, India and Tibet.
How it is written is said where it is read.
-/

namespace SchemaDoc.Text.Names

/-- The names from U+0000 on. -/
def from00000 : String :=
  "+32,aSPACE,fEXCLAMATION MARK,qQUOTATION MARK,oNUMBER SIGN,lDOLLAR SIGN,lPERCENT SIGN,mAMPERSAND
iPOSTROPHE,kLEFT PARENTHESIS,qRIGHT PARENTHESIS,rASTERISK,iPLUS SIGN,jCOMMA,fHYPHEN-MINUS
mFULL STOP,jSOLIDUS,hDIGIT ZERO,eONE,dTWO,cHREE,fFOUR,dIVE,eSIX,cEVEN,fEIGHT,fNINE,kCOLON
fSEMICOLON,jLESS-THAN SIGN,oEQUALS SIGN,lGREATER-THAN SIGN,rQUESTION MARK,nCOMMERCIAL AT
nLATIN CAPITAL LETTER A,bB,bC,bD,bE,bF,bG,bH,bI,bJ,bK,bL,bM,bN,bO,bP,bQ,bR,bS,bT,bU,bV,bW,bX,bY,bZ
vEFT SQUARE BRACKET,tREVERSE SOLIDUS,oIGHT SQUARE BRACKET,uCIRCUMFLEX ACCENT,rLOW LINE
iGRAVE ACCENT,mLATIN SMALL LETTER A,bB,bC,bD,bE,bF,bG,bH,bI,bJ,bK,bL,bM,bN,bO,bP,bQ,bR,bS,bT,bU,bV
bW,bX,bY,bZ,tEFT CURLY BRACKET,sVERTICAL LINE,nRIGHT CURLY BRACKET,tTILDE,+33,fNO-BREAK SPACE
oINVERTED EXCLAMATION MARK,zaCENT SIGN,jPOUND SIGN,kCURRENCY SIGN,nYEN SIGN,iBROKEN BAR
kSECTION SIGN,mDIAERESIS,jCOPYRIGHT SIGN,oFEMININE ORDINAL INDICATOR
zbLEFT-POINTING DOUBLE ANGLE QUOTATION MARK,zqNOT SIGN,iSOFT HYPHEN,lREGISTERED SIGN,pMACRON
gDEGREE SIGN,lPLUS-MINUS SIGN,pSUPERSCRIPT TWO,cHREE,rACUTE ACCENT,mMICRO SIGN,kPILCROW SIGN
mMIDDLE DOT,kCEDILLA,hSUPERSCRIPT ONE,pMASCULINE ORDINAL INDICATOR
zcRIGHT-POINTING DOUBLE ANGLE QUOTATION MARK,zrVULGAR FRACTION ONE QUARTER,hHALF,iTHREE QUARTERS
zfINVERTED QUESTION MARK,wLATIN CAPITAL LETTER A WITH GRAVE,fACUTE,fCIRCUMFLEX,kTILDE,fDIAERESIS
jRING ABOVE,qE,cC WITH CEDILLA,oE WITH GRAVE,fACUTE,fCIRCUMFLEX,kDIAERESIS,qI WITH GRAVE,fACUTE
fCIRCUMFLEX,kDIAERESIS,qETH,dN WITH TILDE,mO WITH GRAVE,fACUTE,fCIRCUMFLEX,kTILDE,fDIAERESIS
zmMULTIPLICATION SIGN,tLATIN CAPITAL LETTER O WITH STROKE,nU WITH GRAVE,fACUTE,fCIRCUMFLEX
kDIAERESIS,qY WITH ACUTE,mTHORN,uSMALL LETTER SHARP S,hA WITH GRAVE,fACUTE,fCIRCUMFLEX,kTILDE
fDIAERESIS,jRING ABOVE,qE,cC WITH CEDILLA,oE WITH GRAVE,fACUTE,fCIRCUMFLEX,kDIAERESIS,qI WITH GRAVE
fACUTE,fCIRCUMFLEX,kDIAERESIS,qETH,dN WITH TILDE,mO WITH GRAVE,fACUTE,fCIRCUMFLEX,kTILDE,fDIAERESIS
zkDIVISION SIGN,nLATIN SMALL LETTER O WITH STROKE,nU WITH GRAVE,fACUTE,fCIRCUMFLEX,kDIAERESIS
qY WITH ACUTE,mTHORN,fY WITH DIAERESIS,zeCAPITAL LETTER A WITH MACRON,zdSMALL LETTER A WITH MACRON
zbCAPITAL LETTER A WITH BREVE,zcSMALL LETTER A WITH BREVE,zaCAPITAL LETTER A WITH OGONEK
zdSMALL LETTER A WITH OGONEK,zbCAPITAL LETTER C WITH ACUTE,zcSMALL LETTER C WITH ACUTE
zaCAPITAL LETTER C WITH CIRCUMFLEX,zhSMALL LETTER C WITH CIRCUMFLEX
zfCAPITAL LETTER C WITH DOT ABOVE,zgSMALL LETTER C WITH DOT ABOVE,zeCAPITAL LETTER C WITH CARON
zcSMALL LETTER C WITH CARON,zaCAPITAL LETTER D WITH CARON,zcSMALL LETTER D WITH CARON
zaCAPITAL LETTER D WITH STROKE,zdSMALL LETTER D WITH STROKE,zbCAPITAL LETTER E WITH MACRON
zdSMALL LETTER E WITH MACRON,zbCAPITAL LETTER E WITH BREVE,zcSMALL LETTER E WITH BREVE
zaCAPITAL LETTER E WITH DOT ABOVE,zgSMALL LETTER E WITH DOT ABOVE,zeCAPITAL LETTER E WITH OGONEK
zdSMALL LETTER E WITH OGONEK,zbCAPITAL LETTER E WITH CARON,zcSMALL LETTER E WITH CARON
zaCAPITAL LETTER G WITH CIRCUMFLEX,zhSMALL LETTER G WITH CIRCUMFLEX,zfCAPITAL LETTER G WITH BREVE
zcSMALL LETTER G WITH BREVE,zaCAPITAL LETTER G WITH DOT ABOVE,zgSMALL LETTER G WITH DOT ABOVE
zeCAPITAL LETTER G WITH CEDILLA,zeSMALL LETTER G WITH CEDILLA,zcCAPITAL LETTER H WITH CIRCUMFLEX
zhSMALL LETTER H WITH CIRCUMFLEX,zfCAPITAL LETTER H WITH STROKE,zdSMALL LETTER H WITH STROKE
zbCAPITAL LETTER I WITH TILDE,zcSMALL LETTER I WITH TILDE,zaCAPITAL LETTER I WITH MACRON
zdSMALL LETTER I WITH MACRON,zbCAPITAL LETTER I WITH BREVE,zcSMALL LETTER I WITH BREVE
zaCAPITAL LETTER I WITH OGONEK,zdSMALL LETTER I WITH OGONEK,zbCAPITAL LETTER I WITH DOT ABOVE
zgSMALL LETTER DOTLESS I,wCAPITAL LIGATURE IJ,tSMALL LIGATURE IJ,rCAPITAL LETTER J WITH CIRCUMFLEX
zhSMALL LETTER J WITH CIRCUMFLEX,zfCAPITAL LETTER K WITH CEDILLA,zeSMALL LETTER K WITH CEDILLA,nRA
qCAPITAL LETTER L WITH ACUTE,zcSMALL LETTER L WITH ACUTE,zaCAPITAL LETTER L WITH CEDILLA
zeSMALL LETTER L WITH CEDILLA,zcCAPITAL LETTER L WITH CARON,zcSMALL LETTER L WITH CARON
zaCAPITAL LETTER L WITH MIDDLE DOT,zhSMALL LETTER L WITH MIDDLE DOT,zfCAPITAL LETTER L WITH STROKE
zdSMALL LETTER L WITH STROKE,zbCAPITAL LETTER N WITH ACUTE,zcSMALL LETTER N WITH ACUTE
zaCAPITAL LETTER N WITH CEDILLA,zeSMALL LETTER N WITH CEDILLA,zcCAPITAL LETTER N WITH CARON
zcSMALL LETTER N WITH CARON,kPRECEDED BY APOSTROPHE,zmCAPITAL LETTER ENG,sSMALL LETTER ENG
qCAPITAL LETTER O WITH MACRON,zdSMALL LETTER O WITH MACRON,zbCAPITAL LETTER O WITH BREVE
zcSMALL LETTER O WITH BREVE,zaCAPITAL LETTER O WITH DOUBLE ACUTE,zjSMALL LETTER O WITH DOUBLE ACUTE
zhCAPITAL LIGATURE OE,tSMALL LIGATURE OE,rCAPITAL LETTER R WITH ACUTE,zcSMALL LETTER R WITH ACUTE
zaCAPITAL LETTER R WITH CEDILLA,zeSMALL LETTER R WITH CEDILLA,zcCAPITAL LETTER R WITH CARON
zcSMALL LETTER R WITH CARON,zaCAPITAL LETTER S WITH ACUTE,zcSMALL LETTER S WITH ACUTE
zaCAPITAL LETTER S WITH CIRCUMFLEX,zhSMALL LETTER S WITH CIRCUMFLEX,zfCAPITAL LETTER S WITH CEDILLA
zeSMALL LETTER S WITH CEDILLA,zcCAPITAL LETTER S WITH CARON,zcSMALL LETTER S WITH CARON
zaCAPITAL LETTER T WITH CEDILLA,zeSMALL LETTER T WITH CEDILLA,zcCAPITAL LETTER T WITH CARON
zcSMALL LETTER T WITH CARON,zaCAPITAL LETTER T WITH STROKE,zdSMALL LETTER T WITH STROKE
zbCAPITAL LETTER U WITH TILDE,zcSMALL LETTER U WITH TILDE,zaCAPITAL LETTER U WITH MACRON
zdSMALL LETTER U WITH MACRON,zbCAPITAL LETTER U WITH BREVE,zcSMALL LETTER U WITH BREVE
zaCAPITAL LETTER U WITH RING ABOVE,zhSMALL LETTER U WITH RING ABOVE
zfCAPITAL LETTER U WITH DOUBLE ACUTE,zjSMALL LETTER U WITH DOUBLE ACUTE
zhCAPITAL LETTER U WITH OGONEK,zdSMALL LETTER U WITH OGONEK,zbCAPITAL LETTER W WITH CIRCUMFLEX
zhSMALL LETTER W WITH CIRCUMFLEX,zfCAPITAL LETTER Y WITH CIRCUMFLEX
zhSMALL LETTER Y WITH CIRCUMFLEX,zfCAPITAL LETTER Y WITH DIAERESIS,qZ WITH ACUTE
zcSMALL LETTER Z WITH ACUTE,zaCAPITAL LETTER Z WITH DOT ABOVE,zgSMALL LETTER Z WITH DOT ABOVE
zeCAPITAL LETTER Z WITH CARON,zcSMALL LETTER Z WITH CARON,mLONG S,gB WITH STROKE
zbCAPITAL LETTER B WITH HOOK,eTOPBAR,zdSMALL LETTER B WITH TOPBAR,zbCAPITAL LETTER TONE SIX
xSMALL LETTER TONE SIX,vCAPITAL LETTER OPEN O,gC WITH HOOK,zbSMALL LETTER C WITH HOOK
yCAPITAL LETTER AFRICAN D,jD WITH HOOK,eTOPBAR,zdSMALL LETTER D WITH TOPBAR,nTURNED DELTA
zaCAPITAL LETTER REVERSED E,kSCHWA,fOPEN E,gF WITH HOOK,zbSMALL LETTER F WITH HOOK
yCAPITAL LETTER G WITH HOOK,kAMMA,uSMALL LETTER HV,pCAPITAL LETTER IOTA,d WITH STROKE,nK WITH HOOK
zbSMALL LETTER K WITH HOOK,lL WITH BAR,jAMBDA WITH STROKE,zgCAPITAL LETTER TURNED M
iN WITH LEFT HOOK,zgSMALL LETTER N WITH LONG RIGHT LEG,zjCAPITAL LETTER O WITH MIDDLE TILDE,mHORN
zbSMALL LETTER O WITH HORN,yCAPITAL LETTER OI,rSMALL LETTER OI,pCAPITAL LETTER P WITH HOOK
zbSMALL LETTER P WITH HOOK,yLETTER YR,jCAPITAL LETTER TONE TWO,xSMALL LETTER TONE TWO
vCAPITAL LETTER ESH,sLETTER REVERSED ESH LOOP,ySMALL LETTER T WITH PALATAL HOOK
zhCAPITAL LETTER T WITH HOOK,zbSMALL LETTER T WITH HOOK,yCAPITAL LETTER T WITH RETROFLEX HOOK
vU WITH HORN,zbSMALL LETTER U WITH HORN,yCAPITAL LETTER UPSILON,hV WITH HOOK,lY WITH HOOK
zbSMALL LETTER Y WITH HOOK,yCAPITAL LETTER Z WITH STROKE,zdSMALL LETTER Z WITH STROKE
zbCAPITAL LETTER EZH,a REVERSED,zcSMALL LETTER EZH REVERSED,iWITH TAIL,zbLETTER TWO WITH STROKE
wCAPITAL LETTER TONE FIVE,ySMALL LETTER TONE FIVE,wLETTER INVERTED GLOTTAL STOP WITH STROKE,ziWYNN
eDENTAL CLICK,mLATERAL CLICK,nALVEOLAR CLICK,oRETROFLEX CLICK,wCAPITAL LETTER DZ WITH CARON
m WITH SMALL LETTER Z WITH CARON,zwSMALL LETTER DZ WITH CARON,zbCAPITAL LETTER LJ
b WITH SMALL LETTER J,zlSMALL LETTER LJ,pCAPITAL LETTER NJ,b WITH SMALL LETTER J,zlSMALL LETTER NJ
pCAPITAL LETTER A WITH CARON,zcSMALL LETTER A WITH CARON,zaCAPITAL LETTER I WITH CARON
zcSMALL LETTER I WITH CARON,zaCAPITAL LETTER O WITH CARON,zcSMALL LETTER O WITH CARON
zaCAPITAL LETTER U WITH CARON,zcSMALL LETTER U WITH CARON
zaCAPITAL LETTER U WITH DIAERESIS AND MACRON,zrSMALL LETTER U WITH DIAERESIS AND MACRON
zpCAPITAL LETTER U WITH DIAERESIS AND ACUTE,zqSMALL LETTER U WITH DIAERESIS AND ACUTE
zoCAPITAL LETTER U WITH DIAERESIS AND CARON,zqSMALL LETTER U WITH DIAERESIS AND CARON
zoCAPITAL LETTER U WITH DIAERESIS AND GRAVE,zqSMALL LETTER U WITH DIAERESIS AND GRAVE,zbTURNED E
vCAPITAL LETTER A WITH DIAERESIS AND MACRON,zrSMALL LETTER A WITH DIAERESIS AND MACRON
zpCAPITAL LETTER A WITH DOT ABOVE AND MACRON,zrSMALL LETTER A WITH DOT ABOVE AND MACRON
zpCAPITAL LETTER AE WITH MACRON,zeSMALL LETTER AE WITH MACRON,zcCAPITAL LETTER G WITH STROKE
zdSMALL LETTER G WITH STROKE,zbCAPITAL LETTER G WITH CARON,zcSMALL LETTER G WITH CARON
zaCAPITAL LETTER K WITH CARON,zcSMALL LETTER K WITH CARON,zaCAPITAL LETTER O WITH OGONEK
zdSMALL LETTER O WITH OGONEK,zbCAPITAL LETTER O WITH OGONEK AND MACRON
zoSMALL LETTER O WITH OGONEK AND MACRON,zmCAPITAL LETTER EZH WITH CARON
zeSMALL LETTER EZH WITH CARON,oJ WITH CARON,zaCAPITAL LETTER DZ,b WITH SMALL LETTER Z
zlSMALL LETTER DZ,pCAPITAL LETTER G WITH ACUTE,zcSMALL LETTER G WITH ACUTE,zaCAPITAL LETTER HWAIR
fWYNN,eN WITH GRAVE,zcSMALL LETTER N WITH GRAVE,zaCAPITAL LETTER A WITH RING ABOVE AND ACUTE
zrSMALL LETTER A WITH RING ABOVE AND ACUTE,zpCAPITAL LETTER AE WITH ACUTE
zdSMALL LETTER AE WITH ACUTE,zbCAPITAL LETTER O WITH STROKE AND ACUTE
znSMALL LETTER O WITH STROKE AND ACUTE,zlCAPITAL LETTER A WITH DOUBLE GRAVE
zjSMALL LETTER A WITH DOUBLE GRAVE,zhCAPITAL LETTER A WITH INVERTED BREVE
zlSMALL LETTER A WITH INVERTED BREVE,zjCAPITAL LETTER E WITH DOUBLE GRAVE
zjSMALL LETTER E WITH DOUBLE GRAVE,zhCAPITAL LETTER E WITH INVERTED BREVE
zlSMALL LETTER E WITH INVERTED BREVE,zjCAPITAL LETTER I WITH DOUBLE GRAVE
zjSMALL LETTER I WITH DOUBLE GRAVE,zhCAPITAL LETTER I WITH INVERTED BREVE
zlSMALL LETTER I WITH INVERTED BREVE,zjCAPITAL LETTER O WITH DOUBLE GRAVE
zjSMALL LETTER O WITH DOUBLE GRAVE,zhCAPITAL LETTER O WITH INVERTED BREVE
zlSMALL LETTER O WITH INVERTED BREVE,zjCAPITAL LETTER R WITH DOUBLE GRAVE
zjSMALL LETTER R WITH DOUBLE GRAVE,zhCAPITAL LETTER R WITH INVERTED BREVE
zlSMALL LETTER R WITH INVERTED BREVE,zjCAPITAL LETTER U WITH DOUBLE GRAVE
zjSMALL LETTER U WITH DOUBLE GRAVE,zhCAPITAL LETTER U WITH INVERTED BREVE
zlSMALL LETTER U WITH INVERTED BREVE,zjCAPITAL LETTER S WITH COMMA BELOW
ziSMALL LETTER S WITH COMMA BELOW,zgCAPITAL LETTER T WITH COMMA BELOW
ziSMALL LETTER T WITH COMMA BELOW,zgCAPITAL LETTER YOGH,tSMALL LETTER YOGH
rCAPITAL LETTER H WITH CARON,zcSMALL LETTER H WITH CARON,zaCAPITAL LETTER N WITH LONG RIGHT LEG
zlSMALL LETTER D WITH CURL,yCAPITAL LETTER OU,rSMALL LETTER OU,pCAPITAL LETTER Z WITH HOOK
zbSMALL LETTER Z WITH HOOK,yCAPITAL LETTER A WITH DOT ABOVE,zgSMALL LETTER A WITH DOT ABOVE
zeCAPITAL LETTER E WITH CEDILLA,zeSMALL LETTER E WITH CEDILLA
zcCAPITAL LETTER O WITH DIAERESIS AND MACRON,zrSMALL LETTER O WITH DIAERESIS AND MACRON
zpCAPITAL LETTER O WITH TILDE AND MACRON,znSMALL LETTER O WITH TILDE AND MACRON
zlCAPITAL LETTER O WITH DOT ABOVE,zgSMALL LETTER O WITH DOT ABOVE
zeCAPITAL LETTER O WITH DOT ABOVE AND MACRON,zrSMALL LETTER O WITH DOT ABOVE AND MACRON
zpCAPITAL LETTER Y WITH MACRON,zdSMALL LETTER Y WITH MACRON,nL WITH CURL,lN WITH CURL,lT WITH CURL
lDOTLESS J,iB DIGRAPH,kQP DIGRAPH,xCAPITAL LETTER A WITH STROKE,nC WITH STROKE
zdSMALL LETTER C WITH STROKE,zbCAPITAL LETTER L WITH BAR,kT WITH DIAGONAL STROKE
zmSMALL LETTER S WITH SWASH TAIL,rZ WITH SWASH TAIL,zfCAPITAL LETTER GLOTTAL STOP
zcSMALL LETTER GLOTTAL STOP,zaCAPITAL LETTER B WITH STROKE,nU BAR,fTURNED V,iE WITH STROKE
zdSMALL LETTER E WITH STROKE,zbCAPITAL LETTER J WITH STROKE,zdSMALL LETTER J WITH STROKE
zbCAPITAL LETTER SMALL Q WITH HOOK TAIL,zmSMALL LETTER Q WITH HOOK TAIL
zeCAPITAL LETTER R WITH STROKE,zdSMALL LETTER R WITH STROKE,zbCAPITAL LETTER Y WITH STROKE
zdSMALL LETTER Y WITH STROKE,nTURNED A,iALPHA,fTURNED ALPHA,mB WITH HOOK,lOPEN O,gC WITH CURL
lD WITH TAIL,eHOOK,lREVERSED E,kSCHWA,a WITH HOOK,pOPEN E,gREVERSED OPEN E,a WITH HOOK
zaCLOSED REVERSED OPEN E,wDOTLESS J WITH STROKE,vG WITH HOOK,lSCRIPT G,vLETTER SMALL CAPITAL G
wSMALL LETTER GAMMA,fRAMS HORN,jTURNED H,iH WITH HOOK,kENG WITH HOOK,oI WITH STROKE,mOTA
rLETTER SMALL CAPITAL I,wSMALL LETTER L WITH MIDDLE TILDE,mBELT,eRETROFLEX HOOK,uEZH,eTURNED M
a WITH LONG LEG,wM WITH HOOK,lN WITH LEFT HOOK,jRETROFLEX HOOK,zjLETTER SMALL CAPITAL N
wSMALL LETTER BARRED O,vLETTER SMALL CAPITAL OE,xSMALL LETTER CLOSED OMEGA,mPHI,dTURNED R
a WITH LONG LEG,iHOOK,sR WITH LONG LEG,iTAIL,eFISHHOOK,oEVERSED R WITH FISHHOOK
zmLETTER SMALL CAPITAL R,bINVERTED R,zgSMALL LETTER S WITH HOOK,lESH
dDOTLESS J WITH STROKE AND HOOK,zfSQUAT REVERSED ESH,sESH WITH CURL,nTURNED T,h WITH RETROFLEX HOOK
vU BAR,ePSILON,hV WITH HOOK,lTURNED V,bW,bY,vLETTER SMALL CAPITAL Y
wSMALL LETTER Z WITH RETROFLEX HOOK,oCURL,lEZH,a WITH CURL,zbLETTER GLOTTAL STOP
mPHARYNGEAL VOICED FRICATIVE,zcINVERTED GLOTTAL STOP,vSTRETCHED C,lBILABIAL CLICK,oSMALL CAPITAL B
wSMALL LETTER CLOSED OPEN E,zbLETTER SMALL CAPITAL G WITH HOOK,lH,wSMALL LETTER J WITH CROSSED-TAIL
tTURNED K,vLETTER SMALL CAPITAL L,wSMALL LETTER Q WITH HOOK,yLETTER GLOTTAL STOP WITH STROKE
yREVERSED GLOTTAL STOP WITH STROKE,zpSMALL LETTER DZ DIGRAPH,jEZH DIGRAPH,lZ DIGRAPH WITH CURL
uTS DIGRAPH,jESH DIGRAPH,lC DIGRAPH WITH CURL,uFENG DIGRAPH,mLS DIGRAPH,jZ DIGRAPH
xLETTER BILABIAL PERCUSSIVE,rDENTAL PERCUSSIVE,zbSMALL LETTER TURNED H WITH FISHHOOK,a AND TAIL
zzaMODIFIER LETTER SMALL H,a WITH HOOK,lJ,bR,bTURNED R,a WITH HOOK,sCAPITAL INVERTED R,sW,bY,hPRIME
fDOUBLE PRIME,mTURNED COMMA,mAPOSTROPHE,kREVERSED COMMA,nIGHT HALF RING,pLEFT HALF RING
oGLOTTAL STOP,mREVERSED GLOTTAL STOP,vLEFT ARROWHEAD,oRIGHT ARROWHEAD,pUP ARROWHEAD,mDOWN ARROWHEAD
oCIRCUMFLEX ACCENT,ziCARON,fMODIFIER LETTER VERTICAL LINE,nMACRON,gACUTE ACCENT,mGRAVE ACCENT
mLOW VERTICAL LINE,nMACRON,gGRAVE ACCENT,mACUTE ACCENT,qTRIANGULAR COLON,qHALF TRIANGULAR COLON
vCENTRED RIGHT HALF RING,pLEFT HALF RING,wUP TACK,hDOWN TACK,jPLUS SIGN,jMINUS SIGN,zbBREVE
fDOT ABOVE,jRING ABOVE,kOGONEK,gSMALL TILDE,lDOUBLE ACUTE ACCENT,tMODIFIER LETTER RHOTIC HOOK
lCROSS ACCENT,mSMALL GAMMA,fL,bS,bX,bREVERSED GLOTTAL STOP,zcEXTRA-HIGH TONE BAR,tHIGH TONE BAR
nMID TONE BAR,mLOW TONE BAR,mEXTRA-LOW TONE BAR,sYIN DEPARTING TONE MARK,wANG DEPARTING TONE MARK
yVOICING,hUNASPIRATED,lDOUBLE APOSTROPHE,rLOW DOWN ARROWHEAD,oUP ARROWHEAD,mLEFT ARROWHEAD
oRIGHT ARROWHEAD,nNG,iMIDDLE GRAVE ACCENT,mDOUBLE GRAVE ACCENT,mACUTE ACCENT,zbLOW TILDE
jRAISED COLON,mBEGIN HIGH TONE,pEND HIGH TONE,nBEGIN LOW TONE,oEND LOW TONE,mSHELF,fOPEN SHELF
kLOW LEFT ARROW,zfCOMBINING GRAVE ACCENT,mACUTE ACCENT,mCIRCUMFLEX ACCENT,rTILDE,fMACRON,gOVERLINE
iBREVE,fDOT ABOVE,iIAERESIS,jHOOK ABOVE,kRING ABOVE,kDOUBLE ACUTE ACCENT,tCARON
fVERTICAL LINE ABOVE,tDOUBLE VERTICAL LINE ABOVE,tGRAVE ACCENT,tCANDRABINDU,lINVERTED BREVE
oTURNED COMMA ABOVE,sCOMMA ABOVE,lREVERSED COMMA ABOVE,uCOMMA ABOVE RIGHT,rGRAVE ACCENT BELOW
sACUTE ACCENT BELOW,sLEFT TACK BELOW,pRIGHT TACK BELOW,qLEFT ANGLE ABOVE,qHORN
eLEFT HALF RING BELOW,uUP TACK BELOW,nDOWN TACK BELOW,pPLUS SIGN BELOW,pMINUS SIGN BELOW
qPALATALIZED HOOK BELOW,wRETROFLEX HOOK BELOW,uDOT BELOW,iIAERESIS BELOW,pRING BELOW,kCOMMA BELOW
kEDILLA,hOGONEK,gVERTICAL LINE BELOW,tBRIDGE BELOW,mINVERTED DOUBLE ARCH BELOW,zbCARON BELOW
kIRCUMFLEX ACCENT BELOW,xBREVE BELOW,lINVERTED BREVE BELOW,uTILDE BELOW,lMACRON BELOW,mLOW LINE
iDOUBLE LOW LINE,pTILDE OVERLAY,nSHORT STROKE OVERLAY,uLONG STROKE OVERLAY,tSHORT SOLIDUS OVERLAY
vLONG SOLIDUS OVERLAY,uRIGHT HALF RING BELOW,vINVERTED BRIDGE BELOW,vSQUARE BELOW,lEAGULL BELOW
nX ABOVE,hVERTICAL TILDE,oDOUBLE OVERLINE,pGRAVE TONE MARK,pACUTE TONE MARK,pGREEK PERISPOMENI
lKORONIS,hDIALYTIKA TONOS,pYPOGEGRAMMENI,tBRIDGE ABOVE,mEQUALS SIGN BELOW
rDOUBLE VERTICAL LINE BELOW,zbLEFT ANGLE BELOW,qNOT TILDE ABOVE,pHOMOTHETIC ABOVE
qALMOST EQUAL TO ABOVE,vLEFT RIGHT ARROW BELOW,wUPWARDS ARROW BELOW,tGRAPHEME JOINER
pRIGHT ARROWHEAD ABOVE,vLEFT HALF RING ABOVE,uFERMATA,hX BELOW,hLEFT ARROWHEAD BELOW
uRIGHT ARROWHEAD BELOW,fAND UP ARROWHEAD BELOW,zhHALF RING ABOVE,vDOT ABOVE RIGHT,pASTERISK BELOW
oDOUBLE RING BELOW,rZIGZAG ABOVE,mDOUBLE BREVE BELOW,g,fMACRON,a BELOW,mTILDE,fINVERTED BREVE
oRIGHTWARDS ARROW BELOW,zeLATIN SMALL LETTER A,bE,bI,bO,bU,bC,bD,bH,bM,bR,bT,bV,bX
zfGREEK CAPITAL LETTER HETA,tSMALL LETTER HETA,rCAPITAL LETTER ARCHAIC SAMPI
zdSMALL LETTER ARCHAIC SAMPI,zbNUMERAL SIGN,mLOWER NUMERAL SIGN,sCAPITAL LETTER PAMPHYLIAN DIGAMMA
ziSMALL LETTER PAMPHYLIAN DIGAMMA,+2,zgYPOGEGRAMMENI,nSMALL REVERSED LUNATE SIGMA SYMBOL
zdDOTTED LUNATE SIGMA SYMBOL,zbREVERSED DOTTED LUNATE SIGMA SYMBOL,zqQUESTION MARK
nCAPITAL LETTER YOT,+4,sTONOS,fDIALYTIKA TONOS,pCAPITAL LETTER ALPHA WITH TONOS,zgANO TELEIA
kCAPITAL LETTER EPSILON WITH TONOS,rTA WITH TONOS,oIOTA WITH TONOS,+1,pOMICRON WITH TONOS,+1
sUPSILON WITH TONOS,sOMEGA WITH TONOS,zgSMALL LETTER IOTA WITH DIALYTIKA AND TONOS
zrCAPITAL LETTER ALPHA,fBETA,eGAMMA,fDELTA,fEPSILON,hZETA,eETA,dTHETA,fIOTA,eKAPPA,fLAMDA,fMU,cNU
cXI,cOMICRON,hPI,cRHO,+1,dSIGMA,fTAU,dUPSILON,hPHI,dCHI,dPSI,dOMEGA,fIOTA WITH DIALYTIKA
tUPSILON WITH DIALYTIKA,zmSMALL LETTER ALPHA WITH TONOS,qEPSILON WITH TONOS,rTA WITH TONOS
oIOTA WITH TONOS,pUPSILON WITH DIALYTIKA AND TONOS,zhALPHA,fBETA,eGAMMA,fDELTA,fEPSILON,hZETA,eETA
dTHETA,fIOTA,eKAPPA,fLAMDA,fMU,cNU,cXI,cOMICRON,hPI,cRHO,dFINAL SIGMA,lSIGMA,fTAU,dUPSILON,hPHI
dCHI,dPSI,dOMEGA,fIOTA WITH DIALYTIKA,tUPSILON WITH DIALYTIKA,wOMICRON WITH TONOS
sUPSILON WITH TONOS,sOMEGA WITH TONOS,zeCAPITAL KAI SYMBOL,sBETA SYMBOL,lTHETA SYMBOL
mUPSILON WITH HOOK SYMBOL,lACUTE AND HOOK SYMBOL,vDIAERESIS AND HOOK SYMBOL,znPHI SYMBOL,jI SYMBOL
jKAI SYMBOL,kLETTER ARCHAIC KOPPA,uSMALL LETTER ARCHAIC KOPPA,zbLETTER STIGMA,nSMALL LETTER STIGMA
tLETTER DIGAMMA,oSMALL LETTER DIGAMMA,uLETTER KOPPA,mSMALL LETTER KOPPA,sLETTER SAMPI
mSMALL LETTER SAMPI,yCOPTIC CAPITAL LETTER SHEI,tSMALL LETTER SHEI,rCAPITAL LETTER FEI
sSMALL LETTER FEI,qCAPITAL LETTER KHEI,tSMALL LETTER KHEI,rCAPITAL LETTER HORI,tSMALL LETTER HORI
rCAPITAL LETTER GANGIA,vSMALL LETTER GANGIA,tCAPITAL LETTER SHIMA,uSMALL LETTER SHIMA
sCAPITAL LETTER DEI,sSMALL LETTER DEI,xGREEK KAPPA SYMBOL,mRHO SYMBOL,kLUNATE SIGMA SYMBOL
sETTER YOT,kCAPITAL THETA SYMBOL,uLUNATE EPSILON SYMBOL,vREVERSED LUNATE EPSILON SYMBOL
zfCAPITAL LETTER SHO,sSMALL LETTER SHO,qCAPITAL LUNATE SIGMA SYMBOL,sETTER SAN,sSMALL LETTER SAN
qRHO WITH STROKE SYMBOL,wCAPITAL REVERSED LUNATE SIGMA SYMBOL,zdDOTTED LUNATE SIGMA SYMBOL
zbREVERSED DOTTED LUNATE SIGMA SYMBOL,zyCYRILLIC CAPITAL LETTER IE WITH GRAVE,mO,cDJE,dGJE
dUKRAINIAN IE,mDZE,dBYELORUSSIAN-UKRAINIAN I,yYI,cJE,cLJE,dNJE,dTSHE,eKJE,dI WITH GRAVE,mSHORT U
hDZHE,eA,bBE,cVE,cGHE,dDE,cIE,cZHE,cE,cI,bSHORT I,hKA,cEL,bM,bN,cO,bPE,cER,bS,cTE,cU,bEF,cHA,cTSE
dCHE,dSHA,bCHA,fHARD SIGN,jYERU,eSOFT SIGN,jE,bYU,bA,rSMALL LETTER A,bBE,cVE,cGHE,dDE,cIE,cZHE,cE
cI,bSHORT I,hKA,cEL,bM,bN,cO,bPE,cER,bS,cTE,cU,bEF,cHA,cTSE,dCHE,dSHA,bCHA,fHARD SIGN,jYERU
eSOFT SIGN,jE,bYU,bA,cIE WITH GRAVE,mO,cDJE,dGJE,dUKRAINIAN IE,mDZE,dBYELORUSSIAN-UKRAINIAN I,yYI
cJE,cLJE,dNJE,dTSHE,eKJE,dI WITH GRAVE,mSHORT U,hDZHE,rCAPITAL LETTER OMEGA,uSMALL LETTER OMEGA
sCAPITAL LETTER YAT,sSMALL LETTER YAT,qCAPITAL LETTER IOTIFIED E,zaSMALL LETTER IOTIFIED E
xCAPITAL LETTER LITTLE YUS,zaSMALL LETTER LITTLE YUS,xCAPITAL LETTER IOTIFIED LITTLE YUS
zjSMALL LETTER IOTIFIED LITTLE YUS,zhCAPITAL LETTER BIG YUS,wSMALL LETTER BIG YUS
uCAPITAL LETTER IOTIFIED BIG YUS,zgSMALL LETTER IOTIFIED BIG YUS,zeCAPITAL LETTER KSI
sSMALL LETTER KSI,qCAPITAL LETTER PSI,sSMALL LETTER PSI,qCAPITAL LETTER FITA,tSMALL LETTER FITA
rCAPITAL LETTER IZHITSA,wSMALL LETTER IZHITSA,uCAPITAL LETTER IZHITSA WITH DOUBLE GRAVE ACCENT
zwSMALL LETTER IZHITSA WITH DOUBLE GRAVE ACCENT,zuCAPITAL LETTER UK,rSMALL LETTER UK
pCAPITAL LETTER ROUND OMEGA,zbSMALL LETTER ROUND OMEGA,yCAPITAL LETTER OMEGA WITH TITLO
zgSMALL LETTER OMEGA WITH TITLO,zeCAPITAL LETTER OT,rSMALL LETTER OT,pCAPITAL LETTER KOPPA
uSMALL LETTER KOPPA,sTHOUSANDS SIGN,wOMBINING CYRILLIC TITLO,fPALATALIZATION,oDASIA PNEUMATA
oPSILI PNEUMATA,nOKRYTIE,iHUNDRED THOUSANDS SIGN,wMILLIONS SIGN
zgYRILLIC CAPITAL LETTER SHORT I WITH TAIL,zhSMALL LETTER SHORT I WITH TAIL
zfCAPITAL LETTER SEMISOFT SIGN,zdSMALL LETTER SEMISOFT SIGN,zbCAPITAL LETTER ER WITH TICK
zcSMALL LETTER ER WITH TICK,zaCAPITAL LETTER GHE WITH UPTURN,zfSMALL LETTER GHE WITH UPTURN
zdCAPITAL LETTER GHE WITH STROKE,zfSMALL LETTER GHE WITH STROKE
zdCAPITAL LETTER GHE WITH MIDDLE HOOK,zkSMALL LETTER GHE WITH MIDDLE HOOK
ziCAPITAL LETTER ZHE WITH DESCENDER,ziSMALL LETTER ZHE WITH DESCENDER
zgCAPITAL LETTER ZE WITH DESCENDER,zhSMALL LETTER ZE WITH DESCENDER
zfCAPITAL LETTER KA WITH DESCENDER,zhSMALL LETTER KA WITH DESCENDER
zfCAPITAL LETTER KA WITH VERTICAL STROKE,znSMALL LETTER KA WITH VERTICAL STROKE
zlCAPITAL LETTER KA WITH STROKE,zeSMALL LETTER KA WITH STROKE,zcCAPITAL LETTER BASHKIR KA
zaSMALL LETTER BASHKIR KA,xCAPITAL LETTER EN WITH DESCENDER,zhSMALL LETTER EN WITH DESCENDER
zfCAPITAL LIGATURE EN GHE,xSMALL LIGATURE EN GHE,vCAPITAL LETTER PE WITH MIDDLE HOOK
zjSMALL LETTER PE WITH MIDDLE HOOK,zhCAPITAL LETTER ABKHASIAN HA,zcSMALL LETTER ABKHASIAN HA
zaCAPITAL LETTER ES WITH DESCENDER,zhSMALL LETTER ES WITH DESCENDER
zfCAPITAL LETTER TE WITH DESCENDER,zhSMALL LETTER TE WITH DESCENDER,zfCAPITAL LETTER STRAIGHT U
zaSMALL LETTER STRAIGHT U,xCAPITAL LETTER STRAIGHT U WITH STROKE
zmSMALL LETTER STRAIGHT U WITH STROKE,zkCAPITAL LETTER HA WITH DESCENDER
zhSMALL LETTER HA WITH DESCENDER,zfCAPITAL LIGATURE TE TSE,xSMALL LIGATURE TE TSE
vCAPITAL LETTER CHE WITH DESCENDER,ziSMALL LETTER CHE WITH DESCENDER
zgCAPITAL LETTER CHE WITH VERTICAL STROKE,zoSMALL LETTER CHE WITH VERTICAL STROKE
zmCAPITAL LETTER SHHA,tSMALL LETTER SHHA,rCAPITAL LETTER ABKHASIAN CHE,zdSMALL LETTER ABKHASIAN CHE
zbCAPITAL LETTER ABKHASIAN CHE WITH DESCENDER,zsSMALL LETTER ABKHASIAN CHE WITH DESCENDER
zqLETTER PALOCHKA,pCAPITAL LETTER ZHE WITH BREVE,zeSMALL LETTER ZHE WITH BREVE
zcCAPITAL LETTER KA WITH HOOK,zcSMALL LETTER KA WITH HOOK,zaCAPITAL LETTER EL WITH TAIL
zcSMALL LETTER EL WITH TAIL,zaCAPITAL LETTER EN WITH HOOK,zcSMALL LETTER EN WITH HOOK
zaCAPITAL LETTER EN WITH TAIL,zcSMALL LETTER EN WITH TAIL,zaCAPITAL LETTER KHAKASSIAN CHE
zeSMALL LETTER KHAKASSIAN CHE,zcCAPITAL LETTER EM WITH TAIL,zcSMALL LETTER EM WITH TAIL,mPALOCHKA
vCAPITAL LETTER A WITH BREVE,zcSMALL LETTER A WITH BREVE,zaCAPITAL LETTER A WITH DIAERESIS
zgSMALL LETTER A WITH DIAERESIS,zeCAPITAL LIGATURE A IE,vSMALL LIGATURE A IE
tCAPITAL LETTER IE WITH BREVE,zdSMALL LETTER IE WITH BREVE,zbCAPITAL LETTER SCHWA
uSMALL LETTER SCHWA,sCAPITAL LETTER SCHWA WITH DIAERESIS,zkSMALL LETTER SCHWA WITH DIAERESIS
ziCAPITAL LETTER ZHE WITH DIAERESIS,ziSMALL LETTER ZHE WITH DIAERESIS
zgCAPITAL LETTER ZE WITH DIAERESIS,zhSMALL LETTER ZE WITH DIAERESIS,zfCAPITAL LETTER ABKHASIAN DZE
zdSMALL LETTER ABKHASIAN DZE,zbCAPITAL LETTER I WITH MACRON,zdSMALL LETTER I WITH MACRON
zbCAPITAL LETTER I WITH DIAERESIS,zgSMALL LETTER I WITH DIAERESIS,zeCAPITAL LETTER O WITH DIAERESIS
zgSMALL LETTER O WITH DIAERESIS,zeCAPITAL LETTER BARRED O,xSMALL LETTER BARRED O
vCAPITAL LETTER BARRED O WITH DIAERESIS,znSMALL LETTER BARRED O WITH DIAERESIS
zlCAPITAL LETTER E WITH DIAERESIS,zgSMALL LETTER E WITH DIAERESIS,zeCAPITAL LETTER U WITH MACRON
zdSMALL LETTER U WITH MACRON,zbCAPITAL LETTER U WITH DIAERESIS,zgSMALL LETTER U WITH DIAERESIS
zeCAPITAL LETTER U WITH DOUBLE ACUTE,zjSMALL LETTER U WITH DOUBLE ACUTE
zhCAPITAL LETTER CHE WITH DIAERESIS,ziSMALL LETTER CHE WITH DIAERESIS
zgCAPITAL LETTER GHE WITH DESCENDER,ziSMALL LETTER GHE WITH DESCENDER
zgCAPITAL LETTER YERU WITH DIAERESIS,zjSMALL LETTER YERU WITH DIAERESIS
zhCAPITAL LETTER GHE WITH STROKE AND HOOK,zoSMALL LETTER GHE WITH STROKE AND HOOK
zmCAPITAL LETTER HA WITH HOOK,zcSMALL LETTER HA WITH HOOK,zaCAPITAL LETTER HA WITH STROKE
zeSMALL LETTER HA WITH STROKE,zcCAPITAL LETTER KOMI DE,wSMALL LETTER KOMI DE
uCAPITAL LETTER KOMI DJE,xSMALL LETTER KOMI DJE,vCAPITAL LETTER KOMI ZJE,xSMALL LETTER KOMI ZJE
vCAPITAL LETTER KOMI DZJE,ySMALL LETTER KOMI DZJE,wCAPITAL LETTER KOMI LJE,xSMALL LETTER KOMI LJE
vCAPITAL LETTER KOMI NJE,xSMALL LETTER KOMI NJE,vCAPITAL LETTER KOMI SJE,xSMALL LETTER KOMI SJE
vCAPITAL LETTER KOMI TJE,xSMALL LETTER KOMI TJE,vCAPITAL LETTER REVERSED ZE
zbSMALL LETTER REVERSED ZE,yCAPITAL LETTER EL WITH HOOK,zcSMALL LETTER EL WITH HOOK
zaCAPITAL LETTER LHA,sSMALL LETTER LHA,qCAPITAL LETTER RHA,sSMALL LETTER RHA,qCAPITAL LETTER YAE
sSMALL LETTER YAE,qCAPITAL LETTER QA,rSMALL LETTER QA,pCAPITAL LETTER WE,rSMALL LETTER WE
pCAPITAL LETTER ALEUT KA,xSMALL LETTER ALEUT KA,vCAPITAL LETTER EL WITH MIDDLE HOOK
zjSMALL LETTER EL WITH MIDDLE HOOK,zhCAPITAL LETTER EN WITH MIDDLE HOOK
zjSMALL LETTER EN WITH MIDDLE HOOK,zhCAPITAL LETTER PE WITH DESCENDER
zhSMALL LETTER PE WITH DESCENDER,zfCAPITAL LETTER SHHA WITH DESCENDER
zjSMALL LETTER SHHA WITH DESCENDER,zhCAPITAL LETTER EN WITH LEFT HOOK
zhSMALL LETTER EN WITH LEFT HOOK,zfCAPITAL LETTER DZZHE,uSMALL LETTER DZZHE,sCAPITAL LETTER DCHE
tSMALL LETTER DCHE,rCAPITAL LETTER EL WITH DESCENDER,zhSMALL LETTER EL WITH DESCENDER,+1
zoARMENIAN CAPITAL LETTER AYB,dBEN,dGIM,dDA,cECH,dZA,cEH,bT,cTO,cZHE,dINI,dLIWN,eXEH,dCA,cKEN,dHO
cJA,cGHAD,eCHEH,eMEN,dYI,cNOW,dSHA,dVO,cCHA,dPEH,dJHEH,eRA,cSEH,dVEW,dTIWN,eREH,dCO,cYIWN,ePIWR
eKEH,dOH,cFEH,+2,sMODIFIER LETTER LEFT HALF RING,zfAPOSTROPHE,kEMPHASIS MARK,mXCLAMATION MARK
qCOMMA,fQUESTION MARK,nABBREVIATION MARK,rSMALL LETTER TURNED AYB,kAYB,dBEN,dGIM,dDA,cECH,dZA,cEH
bT,cTO,cZHE,dINI,dLIWN,eXEH,dCA,cKEN,dHO,cJA,cGHAD,eCHEH,eMEN,dYI,cNOW,dSHA,dVO,cCHA,dPEH,dJHEH,eRA
cSEH,dVEW,dTIWN,eREH,dCO,cYIWN,ePIWR,eKEH,dOH,cFEH,jIGATURE ECH YIWN,qETTER YI WITH STROKE
zcFULL STOP,jHYPHEN,+2,pRIGHT-FACING ARMENIAN ETERNITY SIGN,zkLEFT-FACING ARMENIAN ETERNITY SIGN
zjARMENIAN DRAM SIGN,+1,sHEBREW ACCENT ETNAHTA,hSEGOL,eHALSHELET,kZAQEF QATAN,fGADOL,lTIPEHA,gREVIA
fZARQA,fPASHTA,gYETIV,fTEVIR,fGERESH,a MUQDAM,kSHAYIM,jQARNEY PARA,lTELISHA GEDOLA,oPAZER
fATNAH HAFUKH,mMUNAH,eAHAPAKH,hERKHA,a KEFULA,nDARGA,fQADMA,fTELISHA QETANA,oYERAH BEN YOMO,oOLE
dILUY,eDEHI,eZINOR,mMARK MASORA CIRCLE,sPOINT SHEVA,fHATAF SEGOL,fPATAH,fQAMATS,lIRIQ,fTSERE,fSEGOL
fPATAH,fQAMATS,gHOLAM,a HASER FOR VAV,tQUBUTS,gDAGESH OR MAPIQ,pMETEG,kUNCTUATION MAQAF,qOINT RAFE
jUNCTUATION PASEQ,qOINT SHIN DOT,hIN DOT,mUNCTUATION SOF PASUQ,vMARK UPPER DOT,jLOWER DOT
oPUNCTUATION NUN HAFUKHA,wOINT QAMATS QATAN,+8,sLETTER ALEF,eBET,dGIMEL,fDALET,fHE,cVAV,dZAYIN,fHET
dTET,dYOD,dFINAL KAF,jKAF,dLAMED,fFINAL MEM,jMEM,dFINAL NUN,jNUN,dSAMEKH,gAYIN,eFINAL PE,iPE
cFINAL TSADI,lTSADI,fQOF,dRESH,eSHIN,eTAV,+4,kYOD TRIANGLE,mLIGATURE YIDDISH DOUBLE VAV,kVAV YOD
hDOUBLE YOD,zcPUNCTUATION GERESH,dSHAYIM,+11,zdARABIC NUMBER SIGN,lSIGN SANAH,kFOOTNOTE MARKER
pSIGN SAFHA,dMVAT,lNUMBER MARK ABOVE,s-INDIC CUBE ROOT,jFOURTH ROOT,s RAY,e-INDIC PER MILLE SIGN
kTEN THOUSAND SIGN,ziFGHANI SIGN,lRABIC COMMA,fDATE SEPARATOR,oPOETIC VERSE SIGN,rSIGN MISRA
fSALLALLAHOU ALAYHE WASSALLAM,zdALAYHE ASSALLAM,pRAHMATULLAH ALAYHE,qDI ALLAHOU ANHU,rTAKHALLUS
nMALL HIGH TAH,dLIGATURE ALEF WITH LAM WITH YEH,zgZAIN,jFATHA,fDAMMA,fKASRA,kEMICOLON,jLETTER MARK
lEND OF TEXT MARK,qTRIPLE DOT PUNCTUATION MARK,zcQUESTION MARK,nLETTER KASHMIRI YEH,mHAMZA
fALEF WITH MADDA ABOVE,lHAMZA ABOVE,vWAW WITH HAMZA ABOVE,uALEF WITH HAMZA BELOW
vYEH WITH HAMZA ABOVE,uALEF,eBEH,dTEH MARBUTA,i,cHEH,eJEEM,eHAH,dKHAH,eDAL,dTHAL,eREH,dZAIN,eSEEN
dHEEN,eAD,dDAD,dTAH,dZAH,dAIN,dGHAIN,fKEHEH WITH TWO DOTS ABOVE,nHREE DOTS BELOW
zcFARSI YEH WITH INVERTED V,kTWO DOTS ABOVE,nHREE DOTS ABOVE,znTATWEEL,hLETTER FEH,dQAF,dKAF,dLAM
dMEEM,eNOON,eHEH,dWAW,dALEF MAKSURA,mYEH,kFATHATAN,iDAMMATAN,iKASRATAN,iFATHA,fDAMMA,fKASRA,fSHADDA
fUKUN,fMADDAH ABOVE,mHAMZA ABOVE,fBELOW,lSUBSCRIPT ALEF,oINVERTED DAMMA,oMARK NOON GHUNNA,qZWARAKAY
iVOWEL SIGN SMALL V ABOVE,nINVERTED SMALL V ABOVE,wDOT BELOW,uREVERSED DAMMA,oFATHA WITH TWO DOTS
tWAVY HAMZA BELOW,r-INDIC DIGIT ZERO,eONE,dTWO,cHREE,fFOUR,dIVE,eSIX,cEVEN,fEIGHT,fNINE
r PERCENT SIGN,mDECIMAL SEPARATOR,rTHOUSANDS SEPARATOR,tFIVE POINTED STAR,rLETTER DOTLESS BEH,dQAF
lSUPERSCRIPT ALEF,qALEF WASLA,eITH WAVY HAMZA ABOVE,fBELOW,zbHIGH HAMZA,a ALEF,eWAW
oU WITH HAMZA ABOVE,sHIGH HAMZA YEH,oTTEH,aEH,gBEEH,eTEH WITH RING,eTHREE DOTS ABOVE DOWNWARDS
zkPEH,dTEHEH,fBEHEH,fHAH WITH HAMZA ABOVE,lTWO DOTS VERTICAL ABOVE,zhNYEH,eDYEH
eHAH WITH THREE DOTS ABOVE,zaTCHEH,aEH,hDDAL,dAL WITH RING,eDOT BELOW,a AND SMALL TAH,zfHAL,eDAHAL
fUL,cAL WITH THREE DOTS ABOVE DOWNWARDS,zbFOUR DOTS ABOVE,yRREH,dEH WITH SMALL V,hRING,eDOT BELOW
jSMALL V BELOW,nDOT BELOW AND DOT ABOVE,xTWO DOTS ABOVE,xJEH,dREH WITH FOUR DOTS ABOVE
ySEEN WITH DOT BELOW AND DOT ABOVE,xTHREE DOTS BELOW,a AND THREE DOTS ABOVE
zvAD WITH TWO DOTS BELOW,nHREE DOTS ABOVE,zaTAH WITH THREE DOTS ABOVE,zaAIN WITH THREE DOTS ABOVE
zaDOTLESS FEH,lFEH WITH DOT MOVED BELOW,lBELOW,sVEH,dFEH WITH THREE DOTS BELOW,zaPEHEH
fQAF WITH DOT ABOVE,jTHREE DOTS ABOVE,zaKEHEH,fSWASH KAF,jKAF WITH RING,eDOT ABOVE,sNG
cKAF WITH THREE DOTS BELOW,zaGAF,a WITH RING,nNGOEH,fGAF WITH TWO DOTS BELOW,wUEH
dAF WITH THREE DOTS ABOVE,zaLAM WITH SMALL V,hDOT ABOVE,jTHREE DOTS ABOVE,fBELOW
zaNOON WITH DOT BELOW,oGHUNNA,lRNOON,fNOON WITH RING,eTHREE DOTS ABOVE,zbHEH DOACHASHMEE
pTCHEH WITH DOT ABOVE,uHEH WITH YEH ABOVE,oGOAL,a WITH HAMZA ABOVE,zaTEH MARBUTA GOAL
qWAW WITH RING,nKIRGHIZ OE,kOE,cU,bYU,cKIRGHIZ YU,kWAW WITH TWO DOTS ABOVE,xVE,cFARSI YEH
jYEH WITH TAIL,eSMALL V,qWAW WITH DOT ABOVE,sE,bYEH WITH THREE DOTS BELOW,vBARREE
a WITH HAMZA ABOVE,zjFULL STOP,jLETTER AE,jSMALL HIGH LIGATURE SAD WITH LAM WITH ALEF MAKSURA
zfQAF WITH LAM WITH ALEF MAKSURA,zoMEEM INITIAL FORM,rLAM ALEF,iJEEM,eTHREE DOTS,kSEEN,pEND OF AYAH
lSTART OF RUB EL HIZB,tMALL HIGH ROUNDED ZERO,mUPRIGHT RECTANGULAR ZERO,yDOTLESS HEAD OF KHAH
uMEEM ISOLATED FORM,xLOW SEEN,iHIGH MADDA,kWAW,dYEH,dHIGH YEH,dNOON,pPLACE OF SAJDAH
pEMPTY CENTRE LOW STOP,iHIGH STOP,wROUNDED HIGH STOP WITH FILLED CENTRE,zlSMALL LOW MEEM
oLETTER DAL WITH INVERTED V,tREH WITH INVERTED V,ziEXTENDED ARABIC-INDIC DIGIT ZERO,eONE,dTWO,cHREE
fFOUR,dIVE,eSIX,cEVEN,fEIGHT,fNINE,zhARABIC LETTER SHEEN WITH DOT BELOW,uDAD WITH DOT BELOW
sGHAIN WITH DOT BELOW,zcSIGN SINDHI AMPERSAND,jPOSTPOSITION MEN,zdLETTER HEH WITH INVERTED V
ziSYRIAC END OF PARAGRAPH,qSUPRALINEAR FULL STOP,tBLINEAR FULL STOP,rPRALINEAR COLON,pBLINEAR COLON
pHORIZONTAL COLON,qCOLON SKEWED LEFT,eRIGHT,sSUPRALINEAR COLON SKEWED LEFT
zcBLINEAR COLON SKEWED RIGHT,zdCONTRACTION,lHARKLEAN OBELUS,gMETOBELUS,jASTERISCUS,+1
tABBREVIATION MARK,rLETTER ALAPH,fSUPERSCRIPT ALAPH,rBETH,eGAMAL,a GARSHUNI,oDALATH
fOTLESS DALATH RISH,tHE,cWAW,dZAIN,eHETH,eTETH,a GARSHUNI,nYUDH,a HE,hKAPH,eLAMADH,gMIM,dNUN
dSEMKATH,hFINAL SEMKATH,nE,bPE,cREVERSED PE,lSADHE,fQAPH,eRISH,eSHIN,eTAW,dPERSIAN BHETH,fGHAMAL
gDHALATH,wPTHAHA ABOVE,fBELOW,fDOTTED,nZQAPHA ABOVE,fBELOW,fDOTTED,nRBASA ABOVE,fBELOW
lDOTTED ZLAMA HORIZONTAL,kANGULAR,uHBASA ABOVE,fBELOW,g-ESASA DOTTED,sESASA ABOVE,fBELOW,lRWAHA
fFEMININE DOT,mQUSHSHAYA,jRUKKAKHA,iTWO VERTICAL DOTS ABOVE,fBELOW,wHREE DOTS ABOVE,fBELOW
qOBLIQUE LINE ABOVE,fBELOW,sMUSIC,fBARREKH,+2,hLETTER SOGDIAN ZHAIN,fKHAPH,fFE
yARABIC LETTER BEH WITH THREE DOTS HORIZONTALLY BELOW,zeDOT BELOW AND THREE DOTS ABOVE
zfTHREE DOTS POINTING UPWARDS BELOW,a AND TWO DOTS ABOVE,zzbWO DOTS BELOW AND DOT ABOVE
zdINVERTED SMALL V BELOW,wSMALL V,qHAH WITH TWO DOTS ABOVE,nHREE DOTS POINTING UPWARDS BELOW
zrDAL WITH TWO DOTS VERTICALLY BELOW AND SMALL TAH,zoINVERTED SMALL V BELOW,zgREH WITH STROKE
pSEEN WITH FOUR DOTS ABOVE,zaAIN WITH TWO DOTS ABOVE,nHREE DOTS POINTING DOWNWARDS ABOVE
zjWO DOTS VERTICALLY ABOVE,zjFEH WITH TWO DOTS BELOW,nHREE DOTS POINTING UPWARDS BELOW
zrKEHEH WITH DOT ABOVE,jTHREE DOTS ABOVE,fPOINTING UPWARDS BELOW,ztMEEM WITH DOT ABOVE,fBELOW
tNOON WITH TWO DOTS BELOW,oSMALL TAH,dV,rLAM WITH BAR,mREH WITH TWO DOTS VERTICALLY ABOVE
zaHAMZA ABOVE,uSEEN WITH TWO DOTS VERTICALLY ABOVE,zkHAH WITH SMALL ARABIC LETTER TAH BELOW
fAND TWO DOTS,zuSEEN WITH SMALL ARABIC LETTER TAH AND TWO DOTS
zvREH WITH SMALL ARABIC LETTER TAH AND TWO DOTS,zuHAH WITH SMALL ARABIC LETTER TAH ABOVE
znALEF WITH EXTENDED ARABIC-INDIC DIGIT TWO ABOVE,iHREE ABOVE
zyFARSI YEH WITH EXTENDED ARABIC-INDIC DIGIT TWO ABOVE,iHREE ABOVE,lFOUR BELOW
zzdWAW WITH EXTENDED ARABIC-INDIC DIGIT TWO ABOVE,iHREE ABOVE
zxYEH BARREE WITH EXTENDED ARABIC-INDIC DIGIT TWO ABOVE,iHREE ABOVE
zzfHAH WITH EXTENDED ARABIC-INDIC DIGIT FOUR BELOW
zwSEEN WITH EXTENDED ARABIC-INDIC DIGIT FOUR ABOVE,znINVERTED V,uKAF WITH TWO DOTS ABOVE
zmTHAANA LETTER HAA,dSHAVIYANI,jNOONU,fRAA,dBAA,dLHAVIYANI,jKAAFU,fALIFU,fVAAVU,fMEEMU,fFAAFU
fDHAALU,gTHAA,eLAAMU,fGAAFU,eNAVIYANI,jSEENU,fDAVIYANI,iZAVIYANI,iTAVIYANI,iYAA,dPAVIYANI,iJAVIYANI
iCHAVIYANI,jTTAA,eHHAA,eKHAA,eTHAALU,gZAA,dSHEENU,fAADHU,gDAADHU,gTO,cZO,cAINU,eGHAINU,gQAAFU
fWAAVU,mABAFILI,gABAAFILI,jIBIFILI,hEEBEEFILI,jUBUFILI,hOOBOOFILI,jEBEFILI,gYBEYFILI,jOBOFILI
gABOAFILI,jSUKUN,fLETTER NAA,+14,rNKO DIGIT ZERO,eONE,dTWO,cHREE,fFOUR,dIVE,eSIX,cEVEN,fEIGHT,fNINE
kLETTER A,bEE,cI,bE,bU,bOO,b,bDAGBASINNA,kN,bBA,cPA,cTA,cJA,cCHA,dDA,cRA,bRA,dSA,cGBA,dFA,cKA,cLA
cNA WOLOSO,jMA,cNYA,cA,cHA,cWA,cYA,cNYA WOLOSO,kJONA JA,cCHA,dRA,oCOMBINING SHORT HIGH TONE
jLOW TONE,iRISING TONE,rLONG DESCENDING TONE,pHIGH TONE,jLOW TONE,iRISING TONE,qNASALIZATION MARK
rDOUBLE DOT ABOVE,zbHIGH TONE APOSTROPHE,uLOW TONE APOSTROPHE,tSYMBOL OO DENNEN,jGBAKURUNEN,rCOMMA
fEXCLAMATION MARK,qLAJANYALAN,+2,kDANTAYALAN,jOROME SIGN,lTAMAN SIGN,oSAMARITAN LETTER ALAF,eBIT
dGAMAN,fDALAT,fIY,cBAA,dZEN,dIT,cTIT,dYUT,dKAAF,eLABAT,fMIM,dNUN,dSINGAAT,hIN,cFI,cTSAADIY,hQUF
dRISH,eSHAN,eTAAF,lMARK IN,a-ALAF,hOCCLUSION,jDAGESH,kODIFIER LETTER EPENTHETIC YUT
zeARK EPENTHETIC YUT,tVOWEL SIGN LONG E,gE,bOVERLONG AA,lLONG AA,hAA,cOVERLONG A,kLONG A,gA
mMODIFIER LETTER SHORT A,xVOWEL SIGN SHORT A,hLONG U,gU,mMODIFIER LETTER I,rVOWEL SIGN LONG I,gI,bO
bSUKUN,qMARK NEQUDAA,+2,mPUNCTUATION NEQUDAA,hAFSAAQ,fNGED,fBAU,dATMAAU,gSHIYYAALAA
wABBREVIATION MARK,rPUNCTUATION MELODIC QITSA,nZIQAA,fQITSA,fZAEF,eTURU,eARKAANU,hSOF MASHFAAT
mANNAAU,+1,zdMANDAIC LETTER HALQA,fAB,bG,bD,bH,cUSHENNA,hAZ,cIT,cATT,cKSA,c,bL,bM,bN,bS,cIN,cAP,bSZ
cQ,bR,bSH,cT,cDUSHENNA,iKAD,dAIN,kAFFRICATION MARK,qVOCALIZATION MARK,rGEMINATION MARK,+2
pPUNCTUATION,+1,tSYRIAC LETTER MALAYALAM NGA,dJA,cNYA,dTTA,dNNA,bNA,eBHA,dRA,cLLA,bLA,eSSA,+5
zcARABIC LETTER ALEF WITH ATTACHED FATHA,fTOP RIGHT FATHA,yRIGHT MIDDLE STROKE,tLEFT MIDDLE STROKE
sATTACHED KASRA,fBOTTOM RIGHT KASRA,sROUND DOT ABOVE,oIGHT ROUND DOT,pLEFT ROUND DOT
oROUND DOT BELOW,yDOT ABOVE,jATTACHED TOP RIGHT FATHA AND DOT ABOVE
znRIGHT MIDDLE STROKE AND DOT ABOVE,ziATTACHED BOTTOM RIGHT KASRA AND DOT ABOVE
zhTOP RIGHT FATHA AND LEFT RING,znRIGHT MIDDLE STROKE AND LEFT RING
ziATTACHED BOTTOM RIGHT KASRA AND LEFT RING,zhRIGHT HAMZA,lLEFT HAMZA
zlTATWEEL WITH OVERSTRUCK HAMZA,fWAW,oTWO DOTS BELOW,zcLETTER THIN YEH,pBASELINE ROUND DOT
sRAISED ROUND DOT,qLETTER NOON WITH INVERTED SMALL V,zbHAH WITH INVERTED SMALL V BELOW
zgTAH WITH DOT BELOW,jTHREE DOTS BELOW,zaKEHEH WITH TWO DOTS VERTICALLY BELOW,zsVERTICAL TAIL,+1
nPOUND MARK ABOVE,pIASTRE MARK ABOVE,+6,sSMALL HIGH WORD AL-JUZ,qLOW WORD ISHMAAM,gMAALA,gTASHEEL
wMADDA WAAJIB,mSUPERSCRIPT ALEF MOKHASSAS,zbDOUBLED MADDA,nHALF MADDA OVER MADDA
vLETTER BEH WITH SMALL V BELOW,nHAMZA ABOVE,uJEEM WITH TWO DOTS ABOVE,yTAH WITH TWO DOTS ABOVE
xFEH WITH DOT BELOW AND THREE DOTS ABOVE,zoQAF WITH DOT BELOW,sLAM WITH DOUBLE BAR
tMEEM WITH THREE DOTS ABOVE,zbYEH WITH TWO DOTS BELOW AND HAMZA ABOVE,lDOT ABOVE,zmREH WITH LOOP
nWAW WITH DOT WITHIN,tROHINGYA YEH,mLOW ALEF,iDAL WITH THREE DOTS BELOW,zaSAD WITH THREE DOTS BELOW
zaGAF WITH INVERTED STROKE,ySTRAIGHT WAW,mZAIN WITH INVERTED V ABOVE,zbAIN WITH THREE DOTS BELOW
zaKAF WITH DOT BELOW,sQAF WITH DOT BELOW AND NO DOTS ABOVE,zlBEH WITH SMALL MEEM ABOVE
zaPEH WITH SMALL MEEM ABOVE,zaTEH WITH SMALL TEH ABOVE,yREH WITH SMALL NOON ABOVE
zaYEH WITH TWO DOTS BELOW AND SMALL NOON ABOVE,ztAFRICAN FEH,dQAF,dNOON,mPEH WITH SMALL V
qTEH WITH SMALL V,pTEH WITH SMALL V,qCHEH WITH SMALL V,sKEHEH WITH SMALL V
sGHAIN WITH THREE DOTS ABOVE,zcAFRICAN QAF WITH THREE DOTS ABOVE,ziJEEM WITH THREE DOTS ABOVE
fBELOW,zbLAM WITH SMALL ARABIC LETTER TAH ABOVE,znGRAF,lSMALL FARSI YEH,jHIGH FARSI YEH
jYEH BARREE WITH TWO DOTS BELOW,zfWORD SAH,iZAH,oLARGE ROUND DOT ABOVE,fBELOW,vSUKUN BELOW
lLARGE CIRCLE BELOW,mROUND DOT INSIDE CIRCLE BELOW,zkSMALL LOW WAW,hHIGH WORD AR-RUB,lSAD,dAIN,dQAF
dNOON WITH KASRA,uLOW NOON WITH KASRA,tHIGH WORD ATH-THALATHA,lS-SAJDA,hN-NISF,hSAKTA,fQIF,dWAQFA
kFOOTNOTE MARKER,pSIGN SAFHA,vDISPUTED END OF AYAH,uTURNED DAMMA BELOW,sCURLY FATHA,fDAMMA,fKASRA
fFATHATAN,iDAMMATAN,iKASRATAN,oTONE ONE DOT ABOVE,nTWO DOTS ABOVE,oLOOP ABOVE,kONE DOT BELOW
nTWO DOTS BELOW,oLOOP BELOW,pOPEN FATHATAN,iDAMMATAN,iKASRATAN,nSMALL HIGH WAW,oFATHA WITH RING
eDOT ABOVE,uKASRA WITH DOT BELOW,uLEFT ARROWHEAD ABOVE,uRIGHT ARROWHEAD ABOVE,vLEFT ARROWHEAD BELOW
uRIGHT ARROWHEAD BELOW,vDOUBLE RIGHT ARROWHEAD ABOVE,a WITH DOT,zmRIGHT ARROWHEAD ABOVE WITH DOT
zfDAMMA WITH DOT,oMARK SIDEWAYS NOON GHUNNA,zhDEVANAGARI SIGN INVERTED CANDRABINDU,uCANDRABINDU
lANUSVARA,iVISARGA,mLETTER SHORT A,hA,aA,cI,aI,cU,aU,cVOCALIC R,bL,jCANDRA E,iSHORT E,hE,bAI
cCANDRA O,iSHORT O,hO,bAU,cKA,bHA,dGA,bHA,dNGA,dCA,bHA,dJA,bHA,dNYA,dTTA,bHA,eDDA,bHA,eNNA,dTA,bHA
dDA,bHA,dNA,bNNA,ePA,bHA,dBA,bHA,dMA,cYA,cRA,bRA,dLA,bLA,bLA,eVA,cSHA,cSA,cA,cHA,jVOWEL SIGN OE,bOE
oSIGN NUKTA,fAVAGRAHA,nVOWEL SIGN AA,cI,aI,cU,aU,cVOCALIC R,aR,kCANDRA E,iSHORT E,hE,bAI,cCANDRA O
iSHORT O,hO,bAU,nSIGN VIRAMA,lVOWEL SIGN PRISHTHAMATRA E,pAW,nOM,cSTRESS SIGN UDATTA,gANUDATTA
uGRAVE ACCENT,mACUTE ACCENT,mVOWEL SIGN CANDRA LONG E,nUE,bUE,oLETTER QA,cKHHA,eGHHA,eZA,cDDDHA
fRHA,dFA,cYYA,dVOCALIC RR,cLL,rVOWEL SIGN VOCALIC L,aL,vDANDA,eOUBLE DANDA,lIGIT ZERO,eONE,dTWO
cHREE,fFOUR,dIVE,eSIX,cEVEN,fEIGHT,fNINE,kABBREVIATION SIGN,rSIGN HIGH SPACING DOT,vLETTER CANDRA A
iOE,bOE,dAW,cUE,bUE,dMARWARI DDA,lZHA,dHEAVY YA,iGGA,dJJA,dGLOTTAL STOP,mDDDA,eBBA,vBENGALI ANJI
eSIGN CANDRABINDU,lANUSVARA,iVISARGA,+1,mLETTER A,aA,cI,aI,cU,aU,cVOCALIC R,bL,+2,jE,bAI,+2,cO,bAU
cKA,bHA,dGA,bHA,dNGA,dCA,bHA,dJA,bHA,dNYA,dTTA,bHA,eDDA,bHA,eNNA,dTA,bHA,dDA,bHA,dNA,+1,cPA,bHA,dBA
bHA,dMA,cYA,cRA,+1,cLA,+3,cSHA,cSA,cA,cHA,+2,jSIGN NUKTA,fAVAGRAHA,nVOWEL SIGN AA,cI,aI,cU,aU
cVOCALIC R,aR,+2,kE,bAI,+2,cO,bAU,nSIGN VIRAMA,lLETTER KHANDA TA,+8,qAU LENGTH MARK,+4,oLETTER RRA
cHA,+1,dYYA,dVOCALIC RR,cLL,rVOWEL SIGN VOCALIC L,aL,+2,vDIGIT ZERO,eONE,dTWO,cHREE,fFOUR,dIVE,eSIX
cEVEN,fEIGHT,fNINE,kLETTER RA WITH MIDDLE DIAGONAL,pLOWER DIAGONAL,zeRUPEE MARK,eSIGN
kCURRENCY NUMERATOR ONE,dTWO,cHREE,fFOUR,eONE LESS THAN THE DENOMINATOR,zoDENOMINATOR SIXTEEN
zdISSHAR,gGANDA MARK,kLETTER VEDIC ANUSVARA,vABBREVIATION SIGN,rSANDHI MARK,+2
tGURMUKHI SIGN ADAK BINDI,kBINDI,fVISARGA,+1,mLETTER A,aA,cI,aI,cU,aU,+4,cEE,cAI,+2,cOO,cAU,cKA,bHA
dGA,bHA,dNGA,dCA,bHA,dJA,bHA,dNYA,dTTA,bHA,eDDA,bHA,eNNA,dTA,bHA,dDA,bHA,dNA,+1,cPA,bHA,dBA,bHA,dMA
cYA,cRA,+1,cLA,bLA,+1,dVA,cSHA,+1,cA,cHA,+2,jSIGN NUKTA,+1,kVOWEL SIGN AA,cI,aI,cU,aU,+4,cEE,cAI,+2
cOO,cAU,nSIGN VIRAMA,+3,gUDAAT,+7,kLETTER KHHA,eGHHA,eZA,cRRA,+1,dFA,+7,jDIGIT ZERO,eONE,dTWO,cHREE
fFOUR,dIVE,eSIX,cEVEN,fEIGHT,fNINE,kTIPPI,fADDAK,fIRI,dURA,dEK ONKAR,iSIGN YAKASH
lABBREVIATION SIGN,+10,yJARATI SIGN CANDRABINDU,lANUSVARA,iVISARGA,+1,mLETTER A,aA,cI,aI,cU,aU
cVOCALIC R,bL,qVOWEL CANDRA E,+1,oLETTER E,bAI,jVOWEL CANDRA O,+1,oLETTER O,bAU,cKA,bHA,dGA,bHA
dNGA,dCA,bHA,dJA,bHA,dNYA,dTTA,bHA,eDDA,bHA,eNNA,dTA,bHA,dDA,bHA,dNA,+1,cPA,bHA,dBA,bHA,dMA,cYA,cRA
+1,cLA,bLA,+1,dVA,cSHA,cSA,cA,cHA,+2,jSIGN NUKTA,fAVAGRAHA,nVOWEL SIGN AA,cI,aI,cU,aU,cVOCALIC R,aR
kCANDRA E,+1,iE,bAI,cCANDRA O,+1,iO,bAU,nSIGN VIRAMA,+2,lOM,+15,cLETTER VOCALIC RR,cLL
rVOWEL SIGN VOCALIC L,aL,+2,vDIGIT ZERO,eONE,dTWO,cHREE,fFOUR,dIVE,eSIX,cEVEN,fEIGHT,fNINE
kABBREVIATION SIGN,rRUPEE SIGN,+7,kLETTER ZHA,kSIGN SUKUN,eHADDA,gMADDAH,gTHREE-DOT NUKTA ABOVE
vCIRCLE NUKTA ABOVE,sTWO-CIRCLE NUKTA ABOVE,+1,zlORIYA SIGN CANDRABINDU,lANUSVARA,iVISARGA,+1
mLETTER A,aA,cI,aI,cU,aU,cVOCALIC R,bL,+2,jE,bAI,+2,cO,bAU,cKA,bHA,dGA,bHA,dNGA,dCA,bHA,dJA,bHA
dNYA,dTTA,bHA,eDDA,bHA,eNNA,dTA,bHA,dDA,bHA,dNA,+1,cPA,bHA,dBA,bHA,dMA,cYA,cRA,+1,cLA,bLA,+1,dVA
cSHA,cSA,cA,cHA,+2,jSIGN NUKTA,fAVAGRAHA,nVOWEL SIGN AA,cI,aI,cU,aU,cVOCALIC R,aR,+2,kE,bAI,+2,cO
bAU,nSIGN VIRAMA,+7,gOVERLINE,nAI LENGTH MARK,nU LENGTH MARK,+4,oLETTER RRA,cHA,+1,dYYA,dVOCALIC RR
cLL,rVOWEL SIGN VOCALIC L,aL,+2,vDIGIT ZERO,eONE,dTWO,cHREE,fFOUR,dIVE,eSIX,cEVEN,fEIGHT,fNINE
kISSHAR,gLETTER WA,jFRACTION ONE QUARTER,hHALF,iTHREE QUARTERS,oONE SIXTEENTH,jEIGHTH
kTHREE SIXTEENTHS,+10,zgTAMIL SIGN ANUSVARA,iVISARGA,+1,mLETTER A,aA,cI,aI,cU,aU,+3,cE,aE,cAI,+1,cO
aO,cAU,cKA,+3,cNGA,dCA,+1,cJA,+1,cNYA,dTTA,+3,dNNA,dTA,+3,cNA,bNNA,ePA,+3,cMA,cYA,cRA,bRA,dLA,bLA
bLA,eVA,cSHA,cSA,cA,cHA,+4,jVOWEL SIGN AA,cI,aI,cU,aU,+3,cE,aE,cAI,+1,cO,aO,cAU,nSIGN VIRAMA,+2,lOM
+6,cAU LENGTH MARK,+14,oDIGIT ZERO,eONE,dTWO,cHREE,fFOUR,dIVE,eSIX,cEVEN,fEIGHT,fNINE,kNUMBER TEN
dONE HUNDRED,hTHOUSAND,tDAY SIGN,iMONTH SIGN,kYEAR SIGN,jDEBIT SIGN,kCREDIT SIGN,lAS ABOVE SIGN
nRUPEE SIGN,kNUMBER SIGN,+5,qELUGU SIGN COMBINING CANDRABINDU ABOVE,zbANDRABINDU,lANUSVARA,iVISARGA
hCOMBINING ANUSVARA ABOVE,zeLETTER A,aA,cI,aI,cU,aU,cVOCALIC R,bL,+1,jE,aE,cAI,+1,cO,aO,cAU,cKA,bHA
dGA,bHA,dNGA,dCA,bHA,dJA,bHA,dNYA,dTTA,bHA,eDDA,bHA,eNNA,dTA,bHA,dDA,bHA,dNA,+1,cPA,bHA,dBA,bHA,dMA
cYA,cRA,bRA,dLA,bLA,bLA,eVA,cSHA,cSA,cA,cHA,+2,jSIGN NUKTA,fAVAGRAHA,nVOWEL SIGN AA,cI,aI,cU,aU
cVOCALIC R,aR,+1,kE,aE,cAI,+1,cO,aO,cAU,nSIGN VIRAMA,+7,lLENGTH MARK,lAI LENGTH MARK,+1,oLETTER TSA
dDZA,dRRRA,+2,eNAKAARA POLLU,+2,nVOCALIC RR,cLL,rVOWEL SIGN VOCALIC L,aL,+2,vDIGIT ZERO,eONE,dTWO
cHREE,fFOUR,dIVE,eSIX,cEVEN,fEIGHT,fNINE,+7,kSIGN SIDDHAM
mFRACTION DIGIT ZERO FOR ODD POWERS OF FOUR,zcONE FOR ODD POWERS OF FOUR
zbTWO FOR ODD POWERS OF FOUR,zaHREE FOR ODD POWERS OF FOUR,zdONE FOR EVEN POWERS OF FOUR
zcTWO FOR EVEN POWERS OF FOUR,zbHREE FOR EVEN POWERS OF FOUR,ztSIGN TUUMU
rKANNADA SIGN SPACING CANDRABINDU,tCANDRABINDU,lANUSVARA,iVISARGA,hSIDDHAM,mLETTER A,aA,cI,aI,cU,aU
cVOCALIC R,bL,+1,jE,aE,cAI,+1,cO,aO,cAU,cKA,bHA,dGA,bHA,dNGA,dCA,bHA,dJA,bHA,dNYA,dTTA,bHA,eDDA,bHA
eNNA,dTA,bHA,dDA,bHA,dNA,+1,cPA,bHA,dBA,bHA,dMA,cYA,cRA,bRA,dLA,bLA,+1,dVA,cSHA,cSA,cA,cHA,+2
jSIGN NUKTA,fAVAGRAHA,nVOWEL SIGN AA,cI,aI,cU,aU,cVOCALIC R,aR,+1,kE,aE,cAI,+1,cO,aO,cAU
nSIGN VIRAMA,+7,lLENGTH MARK,lAI LENGTH MARK,+6,oLETTER NAKAARA POLLU,nFA,+1,cVOCALIC RR,cLL
rVOWEL SIGN VOCALIC L,aL,+2,vDIGIT ZERO,eONE,dTWO,cHREE,fFOUR,dIVE,eSIX,cEVEN,fEIGHT,fNINE,+1
kSIGN JIHVAMULIYA,lUPADHMANIYA,+13,yMALAYALAM SIGN COMBINING ANUSVARA ABOVE,xANDRABINDU,lANUSVARA
iVISARGA,mLETTER VEDIC ANUSVARA,oA,aA,cI,aI,cU,aU,cVOCALIC R,bL,+1,jE,aE,cAI,+1,cO,aO,cAU,cKA,bHA
dGA,bHA,dNGA,dCA,bHA,dJA,bHA,dNYA,dTTA,bHA,eDDA,bHA,eNNA,dTA,bHA,dDA,bHA,dNA,bNNA,ePA,bHA,dBA,bHA
dMA,cYA,cRA,bRA,dLA,bLA,bLA,eVA,cSHA,cSA,cA,cHA,cTTTA,lSIGN VERTICAL BAR VIRAMA,tCIRCULAR VIRAMA
pAVAGRAHA,nVOWEL SIGN AA,cI,aI,cU,aU,cVOCALIC R,aR,+1,kE,aE,cAI,+1,cO,aO,cAU,nSIGN VIRAMA
lLETTER DOT REPH,pSIGN PARA,+4,jLETTER CHILLU M,bY,bLLL,rAU LENGTH MARK
oFRACTION ONE ONE-HUNDRED-AND-SIXTIETH,yFORTIETH,mTHREE EIGHTIETHS,qONE TWENTIETH,iENTH
jTHREE TWENTIETHS,qONE FIFTH,sLETTER ARCHAIC II,kVOCALIC RR,cLL,rVOWEL SIGN VOCALIC L,aL,+2
vDIGIT ZERO,eONE,dTWO,cHREE,fFOUR,dIVE,eSIX,cEVEN,fEIGHT,fNINE,kNUMBER TEN,dONE HUNDRED,hTHOUSAND
tFRACTION ONE QUARTER,hHALF,iTHREE QUARTERS,oONE SIXTEENTH,jEIGHTH,kTHREE SIXTEENTHS,zaDATE MARK
jLETTER CHILLU NN,b,bRR,cL,aL,cK,+1,zaSINHALA SIGN CANDRABINDU,lANUSVARAYA,kVISARGAYA,+1
oLETTER AYANNA,fAYANNA,gEYANNA,fEYANNA,iIYANNA,fIYANNA,hUYANNA,fUYANNA,hIRUYANNA,fUYANNA,iLUYANNA
fUYANNA,jEYANNA,fEYANNA,hAIYANNA,hOYANNA,fOYANNA,hAUYANNA,+3,gLPAPRAANA KAYANNA
sMAHAAPRAANA KAYANNA,tALPAPRAANA GAYANNA,sMAHAAPRAANA GAYANNA,tKANTAJA NAASIKYAYA,sSANYAKA GAYANNA
pALPAPRAANA CAYANNA,sMAHAAPRAANA CAYANNA,tALPAPRAANA JAYANNA,sMAHAAPRAANA JAYANNA
tTAALUJA NAASIKYAYA,kSANYOOGA NAAKSIKYAYA,zdSANYAKA JAYANNA,pALPAPRAANA TTAYANNA
tMAHAAPRAANA TTAYANNA,uALPAPRAANA DDAYANNA,tMAHAAPRAANA DDAYANNA,tUURDHAJA NAYANNA
rSANYAKA DDAYANNA,qALPAPRAANA TAYANNA,sMAHAAPRAANA TAYANNA,tALPAPRAANA DAYANNA,sMAHAAPRAANA DAYANNA
tDANTAJA NAYANNA,+1,pSANYAKA DAYANNA,pALPAPRAANA PAYANNA,sMAHAAPRAANA PAYANNA,tALPAPRAANA BAYANNA
sMAHAAPRAANA BAYANNA,rYANNA,hAMBA BAYANNA,mYAYANNA,hRAYANNA,+1,hDANTAJA LAYANNA,+2,pVAYANNA
hTAALUJA SAYANNA,pMUURDHAJA SAYANNA,rDANTAJA SAYANNA,pHAYANNA,hMUURDHAJA LAYANNA,rFAYANNA,+3
oSIGN AL-LAKUNA,+4,oVOWEL SIGN AELA-PILLA,kKETTI AEDA-PILLA,qDIGA AEDA-PILLA,pKETTI IS-PILLA
oDIGA IS-PILLA,nKETTI PAA-PILLA,+1,pDIGA PAA-PILLA,+1,oGAETTA-PILLA,mKOMBUVA,hDIGA KOMBUVA
mKOMBU DEKA,fVA HAA AELA-PILLA,kDIGA AELA-PILLA,pGAYANUKITTA,xGAYANUKITTA,+6,wLITH DIGIT ZERO,eONE
dTWO,cHREE,fFOUR,dIVE,eSIX,cEVEN,fEIGHT,fNINE,+2,pVOWEL SIGN DIGA GAETTA-PILLA,kYANUKITTA
zcPUNCTUATION KUNDDALIYA,+12,zfTHAI CHARACTER KO KAI,fHO KHAI,cUAT,dWAI,dON,eRAKHANG,lNGO NGU
hCHO CHAN,cING,dANG,jSO SO,fCHO CHOE,iYO YING,hDO CHADA,iTO PATAK,hHO THAN,eNANGMONTHO,kPHUTHAO
lNO NEN,gDO DEK,gTO TAO,fHO THUNG,dAHAN,eONG,jNO NU,fBO BAIMAI,jPO PLA,fHO PHUNG,jFO FA,fPHO PHAN
iFO FAN,gPHO SAMPHAO,lMO MA,fYO YAK,gRO RUA,fU,cLO LING,gU,cWO WAEN,hSO SALA,eRUSI,eSUA,gHO HIP
gLO CHULA,iO ANG,fHO NOKHUK,jPAIYANNOI,jSARA A,gMAI HAN-AKAT,mSARA AA,bM,cI,aI,cUE,aE,c,aU,hPHINTHU
+4,qURRENCY SYMBOL BAHT,tHARACTER SARA E,bAE,cO,bAI MAIMUAN,dALAI,qLAKKHANGYAO,lMAIYAMOK,fTAIKHU
g EK,cTHO,cRI,dCHATTAWA,mTHANTHAKHAT,lNIKHAHIT,iYAMAKKAN,iFONGMAN,rDIGIT ZERO,eONE,dTWO,cHREE,fFOUR
dIVE,eSIX,cEVEN,fEIGHT,fNINE,kCHARACTER ANGKHANKHU,kKHOMUT,+37,vLAO LETTER KO,bHO SUNG,+1,eTAM,+1
hPALI GHA,iNGO,dCO,cPALI CHA,iSO TAM,+1,gPALI JHA,iNYO,dPALI NYA,dTTA,bHA,eDDA,bHA,eNNA,iDO,cTO
bHO SUNG,eTAM,hPALI DHA,iNO,cBO,cPO,bHO SUNG,iFO TAM,gPHO TAM,hFO SUNG,hPALI BHA,iMO,cYO,cLO LING
+1,dOOT,+1,hWO,cSANSKRIT SHA,cSA,lO SUNG,hHO SUNG,hPALI LLA,iO,bHO TAM,nELLIPSIS,iVOWEL SIGN A
bMAI KAN,hAA,bM,cI,aI,cY,aY,cU,aU,nSIGN PALI VIRAMA,qVOWEL SIGN MAI KON,sSEMIVOWEL SIGN LO,cNYO,+2
sVOWEL SIGN E,aI,cO,bAY,bI,+1,nKO LA,+1,fTONE MAI EK,cTHO,cI,cCATAWA,pCANCELLATION MARK,rNIGGAHITA
+2,jDIGIT ZERO,eONE,dTWO,cHREE,fFOUR,dIVE,eSIX,cEVEN,fEIGHT,fNINE,+2,kHO NO,cMO,fLETTER KHMU GO
cNYO,+32,tTIBETAN SYLLABLE OM,lMARK GTER YIG MGO TRUNCATED A,l-UM RNAM BCAD MA,mGTER TSHEG MA
zfINITIAL YIG MGO MDUN MA,xCLOSING YIG MGO SGAB MA,wARET YIG MGO PHUR SHAD MA
zbYIG MGO TSHEG SHAD MA,vSBRUL SHAD,kBSKUR YIG MGO,mKA- SHOG YIG MGO,rINTERSYLLABIC TSHEG
tDELIMITER TSHEG BSTAR,vSHAD,eNYIS SHAD,jTSHEG SHAD,kNYIS TSHEG SHAD,pRIN CHEN SPUNGS SHAD
tGYA GRAM SHAD,oCARET -DZUD RTAGS ME LONG CAN,zeGTER TSHEG,pLOGOTYPE SIGN CHAD RTAGS,kLHAG RTAGS
yASTROLOGICAL SIGN SGRA GCAN -CHAR RTAGS,v-KHYUD PA,jSDONG TSHUGS,zfSIGN RDEL DKAR GCIG,dNYIS,eSUM
jNAG GCIG,dNYIS,jDKAR RDEL NAG,xDIGIT ZERO,eONE,dTWO,cHREE,fFOUR,dIVE,eSIX,cEVEN,fEIGHT,fNINE
eHALF ONE,dTWO,cHREE,fFOUR,dIVE,eSIX,cEVEN,fEIGHT,fNINE,eZERO,pMARK BSDUS RTAGS,lNGAS BZUNG NYI ZLA
sCARET -DZUD RTAGS BZHI MIG CAN,zfNGAS BZUNG SGOR RTAGS,vCHE MGO,hTSA -PHRU,jGUG RTAGS GYON,cAS
oANG KHANG GYON,cAS,tSIGN YAR TSHES,jMAR TSHES,oLETTER KA,bHA,dGA,bHA,dNGA,dCA,bHA,dJA,+1,cNYA,dTTA
bHA,eDDA,bHA,eNNA,dTA,bHA,dDA,bHA,dNA,cPA,bHA,dBA,bHA,dMA,cTSA,bHA,eDZA,bHA,eWA,cZHA,cA,c-A,cYA,cRA
cLA,cSHA,cSA,cA,cHA,cA,bKSSA,eFIXED-FORM RA,nKKA,dRRA,+4,kVOWEL SIGN AA,cI,aI,cU,aU,cVOCALIC R,aR
cL,aL,kE,aE,cO,aO,nSIGN RJES SU NGA RO,nNAM BCAD,oVOWEL SIGN REVERSED I,aI,wSIGN NYI ZLA NAA DA
oSNA LDAN,nMARK HALANTA,hPALUTA,lSIGN LCI RTAGS,jYANG RTAGS,kLCE TSA CAN,lMCHU CAN,iGRU CAN RGYINGS
lMED RGYINGS,pINVERTED MCHU CAN,vUBJOINED SIGN LCE TSA CAN,lMCHU CAN,iINVERTED MCHU CAN,wLETTER KA
bHA,dGA,bHA,dNGA,dCA,bHA,dJA,+1,cNYA,dTTA,bHA,eDDA,bHA,eNNA,dTA,bHA,dDA,bHA,dNA,cPA,bHA,dBA,bHA,dMA
cTSA,bHA,eDZA,bHA,eWA,cZHA,cA,c-A,cYA,cRA,cLA,cSHA,cSA,cA,cHA,cA,bKSSA,eFIXED-FORM WA,cYA,cRA,+1
zfKU RU KHA,a BZHI MIG CAN,wCANTILLATION SIGN HEAVY BEAT,kLIGHT BEAT,kCANG TE-U,jSBUB -CHAL
zdSYMBOL DRIL BU,hRDO RJE,hPADMA GDAN,kRDO RJE RGYA GRAM,rPHUR PA,hNOR BU,a NYIS -KHYIL
lGSUM -KHYIL,lBZHI -KHYIL,+1,yIGN RDEL NAG RDEL DKAR,jGSUM,sMARK BSKA- SHOG GI MGO RGYAN
xMNYAM YIG GI MGO RGYAN,wNYIS TSHEG,kINITIAL BRDA RNYING YIG MGO MDUN MA
zkCLOSING BRDA RNYING YIG MGO SGAB MA,zxRIGHT-FACING SVASTI SIGN,yLEFT-FACING SVASTI SIGN
xRIGHT-FACING SVASTI SIGN WITH DOTS,zjLEFT-FACING SVASTI SIGN WITH DOTS
ziTIBETAN MARK LEADING MCHAN RTAGS,tTRAILING MCHAN RTAGS"

end SchemaDoc.Text.Names
